import ServiceDescription.Schema.Standalone

/-! The copy of a schema that is checked. It is copied once more, and then the prefix of an element
is looked up again where the element stands now; where a declaration that has been kept hides the
namespace that the prefix had, the element gets another name. -/
namespace ServiceDescription.Schema.Strict
open Xml

/-- The name of an element as its prefix gives it. One in no namespace stays there. -/
def renamed (scope : Scope) (tag : Tag) : ExpandedName :=
  if tag.name.space = "" then tag.name
  else ⟨(scope.namespace? tag.pre).getD tag.name.space, tag.name.localName⟩

mutual

/-- A tree copied with its prefixes. -/
def recopied (scope : Scope) : Node → Node
  | .element tag content =>
    let scope := tag.declarations ++ scope
    .element { tag with name := renamed scope tag } (recopiedAll scope content)
  | n => n

def recopiedAll (scope : Scope) : List Node → List Node
  | [] => []
  | n :: rest => recopied scope n :: recopiedAll scope rest

end

/-- The copy that is checked. -/
def checkedCopy (l : Located) : Located :=
  match (standalone l).node with
  | .element tag content => .root (.element tag (recopiedAll tag.declarations content))
  | n => .root n

end ServiceDescription.Schema.Strict
