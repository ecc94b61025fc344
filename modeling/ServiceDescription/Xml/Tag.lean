import ServiceDescription.Vocabulary
import ServiceDescription.Xml.DocumentType
import ServiceDescription.Xml.ClassicName
import ServiceDescription.Xml.Node
import ServiceDescription.Xml.Uri

/-! Start tags: attribute values are read, namespace declarations are put into effect, names are
resolved and identifiers are given. What is wrong with names is noted; only an attribute that is
written twice, or a value that cannot be read, spoils a tag for good. -/
namespace ServiceDescription.Xml
open Markup

/-- Part of an attribute value: a character, or a reference to an entity that is declared. -/
inductive ValueItem where
  | char (c : Char)
  | reference (entity : String)
  deriving DecidableEq, Repr

namespace ValueItem

/-- White space that is written out counts as a space. -/
def spaced (c : Char) : Char := if isSpace c then ' ' else c

/-- The items of a value. A reference to an entity without a declaration stands for nothing. -/
def ofRun (d : DocumentType) : Run → List ValueItem
  | .literal s => s.map fun c => .char (spaced c)
  | .character c => [.char c]
  | .entity name => if (d.entities.lookup name).isSome then [.reference name] else []

/-- The words between spaces, one space between two. -/
def collapse (items : List ValueItem) : List ValueItem :=
  [.char ' '].intercalate ((items.splitOn (.char ' ')).filter (!·.isEmpty))

/-- The text of a value, with `space` done to what is written out in entities. -/
def text (d : DocumentType) (space : Char → Char) (items : List ValueItem) : String :=
  String.ofList <| items.flatMap fun
    | char c => [c]
    | reference name => d.replacement space (DocumentType.maxNesting + 1) name

/-- The text of a value beside its references. -/
def own (items : List ValueItem) : String :=
  String.ofList <| items.filterMap fun
    | char c => some c
    | reference _ => none

def isReference : ValueItem → Bool
  | reference _ => true
  | char _ => false

end ValueItem

namespace Tag

/-- An attribute with its name split at the colon. -/
structure Entry where
  written : String
  pre : String
  localName : String
  items : List ValueItem
  deriving DecidableEq, Repr

/-- The parts of a name around its colon. A name with a colon out of place is a fault and has no
prefix. -/
def split (name : String) : String × String × List Remark :=
  match splitName? name with
  | some (pre, localName) => (pre, localName, [])
  | none => ("", name, [.fault])

/-- The prefix that an attribute declares, if it is a declaration. -/
def Entry.declared? (e : Entry) : Option String :=
  if e.written = "xmlns" then some ""
  else if e.pre = "xmlns" then some e.localName
  else none

/-- What is wrong with binding a prefix to a namespace, and whether it is bound all the same. The
prefix xml is bound once and for all. -/
def binding (pre uri : String) : List Remark × Bool :=
  if pre = "xml" then (if uri = Vocabulary.xml then [] else [.fault], false)
  else if uri = "" then if pre = "" then ([], true) else ([.fault], false)
  else if pre = "xmlns" || uri = Vocabulary.xml || uri = Vocabulary.xmlns then ([.fault], false)
  else if !Uri.isReference uri then ([.fault], true)
  else if pre = "" && !Uri.hasScheme uri then ([.warning], true)
  else ([], true)

/-- White space of the document is to be kept or not; nothing else can be said about it. -/
def spaceRemarks (e : Entry) : List Remark :=
  if e.written = "xml:space" &&
      !(["default", "preserve"].map (·.toList.map ValueItem.char)).contains e.items then
    [.warning]
  else []

def entry? (d : DocumentType) (depth : Nat) (element : String) (a : RawAttribute)
    (f : Findings) : Option (Entry × Findings) := do
  let (pre, localName, remarks) := split a.name
  let f ← a.value.foldlM (fun f r =>
    match r with
    | .entity name => do
      let f ← d.check? depth f name
      if (d.entities.lookup name).isSome then d.copy? name f else some f
    | _ => some f) (f.remark remarks)
  let items := a.value.flatMap (ValueItem.ofRun d)
  return (⟨a.name, pre, localName,
    if d.isTokenized element a.name then ValueItem.collapse items else items⟩, f)

/-- The attributes of a tag read so far, declarations apart. -/
structure Reading where
  declarations : Scope := []
  entries : List Entry := []
  findings : Findings
  deriving Repr

/-- One more attribute. A prefix is declared once. -/
def Reading.add? (d : DocumentType) (depth : Nat) (element : String) (r : Reading)
    (a : RawAttribute) : Option Reading := do
  let (e, f) ← entry? d depth element a r.findings
  match e.declared? with
  | none =>
    return { r with entries := r.entries ++ [e], findings := f.remark (spaceRemarks e) }
  | some pre =>
    let uri := ValueItem.text d ValueItem.spaced e.items
    let (remarks, isBound) := binding pre uri
    let r := { r with findings := f.remark remarks }
    if !isBound then some r
    else if r.declarations.any (·.1 = pre) then none
    else some { r with declarations := r.declarations ++ [(pre, uri)] }

/-- The prefix that the name of an attribute declares. -/
def declared? (name : String) : Option String :=
  if name = "xmlns" then some ""
  else
    match splitName? name with
    | some ("xmlns", pre) => some pre
    | _ => none

/-- The declarations that a tag has by default. They are not looked at closely. -/
def suppliedDeclarations (supplied : List (String × String)) (declarations : Scope) : Scope :=
  declarations ++ supplied.filterMap fun s =>
    (declared? s.1).bind fun pre =>
      if declarations.any (·.1 = pre) || (pre = "xml" && s.2 = Vocabulary.xml) then none
      else some (pre, s.2)

/-- The namespace of a prefix; none for one that is not bound. -/
def space? (scope : Scope) (pre : String) : Option String :=
  if pre = "xml" then some Vocabulary.xml else scope.namespace? pre

/-- The name of an attribute: one without a prefix is in no namespace. -/
def attributeName? (scope : Scope) (pre localName : String) : Option ExpandedName :=
  if pre = "" then some ⟨"", localName⟩ else (space? scope pre).map (⟨·, localName⟩)

/-- The name of an element: one without a prefix is in the default namespace. A prefix that is not
bound stays part of the name. -/
def elementName (scope : Scope) (pre localName : String) : ExpandedName × List Remark :=
  if pre = "" then (⟨(scope.namespace? "").getD "", localName⟩, [])
  else
    match space? scope pre with
    | some uri => (⟨uri, localName⟩, [])
    | none => (⟨"", pre ++ ":" ++ localName⟩, [.fault])

/-- The attributes that a tag turns out to have, by expanded name and prefix. -/
abbrev Taken := List (ExpandedName × String)

/-- Takes an attribute of the tag: one name with one prefix must not come twice. -/
def take? (scope : Scope) (taken : Taken × List Remark) (e : Entry) :
    Option (Taken × List Remark) :=
  let name := (attributeName? scope e.pre e.localName).getD ⟨"", e.localName⟩
  match taken.1.lookup name with
  | none => some ((name, e.pre) :: taken.1, taken.2)
  | some pre => if pre = e.pre then none else some (taken.1, taken.2 ++ [.fault])

/-- Takes an attribute that the tag has by default, unless it is written in the tag. -/
def takeSupplied (scope : Scope) (taken : Taken × List Remark) (s : String × String) :
    Taken × List Remark :=
  if (declared? s.1).isSome then taken
  else
    let (pre, localName, _) := split s.1
    let unbound := if (attributeName? scope pre localName).isNone then [Remark.fault] else []
    let name := (attributeName? scope pre localName).getD ⟨"", localName⟩
    match taken.1.lookup name with
    | none => ((name, pre) :: taken.1, taken.2 ++ unbound)
    | some other => (taken.1, taken.2 ++ unbound ++ if other = pre then [] else [.fault])

/-- The attributes that can be looked up though the tag does not have them. A name with a prefix is
found under the namespace of the prefix, and one without a prefix under the default namespace
too. -/
def supply (scope : Scope) (supplied : List (String × String)) : List Attribute :=
  let plain := supplied.flatMap fun s =>
    match splitName? s.1 with
    | some ("", localName) => [{ name := ⟨"", localName⟩, value := s.2 }]
    | some ("xml", localName) =>
      [{ name := ⟨Vocabulary.xml, localName⟩, value := s.2, pre := "xml" }]
    | some _ => []
    | none => [{ name := ⟨"", s.1⟩, value := s.2 }]
  plain ++ scope.visible.flatMap fun b =>
    supplied.filterMap fun s =>
      match splitName? s.1 with
      | some (pre, localName) =>
        if pre = b.1 && b.2 ≠ "" then
          some { name := ⟨b.2, localName⟩, value := s.2, pre := pre }
        else none
      | none => none

/-- The identifiers that a tag gives: the identifier of the XML vocabulary, which has to be a simple
name, and attributes that are declared as identifiers. A value with references gives none. -/
def identify (d : DocumentType) (element : String) (f : Findings) (e : Entry) : Findings :=
  let value := ValueItem.own e.items
  if e.items.any ValueItem.isReference then f
  else if e.written = "xml:id" then
    let isName := ClassicName.isSimpleName (ClassicName.trim value.toList)
    (f.remark (if isName then [] else [.fault])).identify value
  else if (d.attribute? element e.written).any (·.type = .identifier) then f.identify value
  else f

/-- An attribute of the tree. A prefix that is not bound stays part of the name. -/
def expandAttribute (d : DocumentType) (scope : Scope) (e : Entry) : Attribute :=
  let name := (attributeName? scope e.pre e.localName).getD ⟨"", e.written⟩
  { name := name
    value := ValueItem.text d id e.items
    own := ValueItem.own e.items
    pre := if name.space = "" then "" else e.pre }

/-- The tag that a start tag gives under the declarations around it. Entities in its values are at
most `depth` inside one another. -/
def ofStart? (d : DocumentType) (depth : Nat) (outer : Scope) (name : String)
    (attributes : List RawAttribute) (f : Findings) : Option (Tag × Findings) := do
  let (pre, localName, remarks) := split name
  let r ← attributes.foldlM (Reading.add? d depth name) ({ findings := f.remark remarks } : Reading)
  let supplied := d.supplied name
  let declarations := suppliedDeclarations supplied r.declarations
  let scope := declarations ++ outer
  let unbound := r.entries.filter fun e => (attributeName? scope e.pre e.localName).isNone
  let taken ← r.entries.foldlM (take? scope) ([], unbound.map fun _ => .fault)
  let (_, attributeRemarks) := supplied.foldl (takeSupplied scope) taken
  let (expanded, nameRemarks) := elementName scope pre localName
  let f := r.findings.remark (attributeRemarks ++ nameRemarks)
  let tag : Tag := {
    name := expanded, pre := pre, declarations := declarations
    attributes := r.entries.map (expandAttribute d scope), defaults := supply scope supplied }
  return (tag, r.entries.foldl (identify d name) f)

end Tag
end ServiceDescription.Xml
