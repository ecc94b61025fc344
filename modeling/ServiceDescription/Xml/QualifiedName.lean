import ServiceDescription.Text.Blank
import ServiceDescription.Vocabulary
import ServiceDescription.Xml.Node

/-! Qualified names in attribute values: the declarations in scope where the value stands give the
prefix its namespace. -/
namespace ServiceDescription.Xml.QualifiedName

/-- The namespace of a prefix, empty for one that is not bound. The prefix xml is always bound. -/
def namespaceOf (scope : Scope) (pre : String) : String :=
  if pre = "xml" then Vocabulary.xml else (scope.namespace? pre).getD ""

/-- A name without a colon gets the namespace `fallback`; otherwise what stands before the first
colon is the prefix. Blanks around the whole do not count. -/
def resolve (scope : Scope) (fallback raw : String) : ExpandedName :=
  let s := Text.trimChars raw.toList
  match s.dropWhile (· ≠ ':') with
  | [] => ⟨fallback, String.ofList s⟩
  | _ :: rest =>
    ⟨namespaceOf scope (String.ofList (s.takeWhile (· ≠ ':'))), String.ofList rest⟩

end ServiceDescription.Xml.QualifiedName
