/-! The tree of a document: elements with their names resolved and their namespace declarations
kept, character data, comments, processing instructions and references to entities. -/
namespace ServiceDescription.Xml

/-- A namespace, empty for none, and a name in it. -/
structure ExpandedName where
  space : String
  localName : String
  deriving DecidableEq, Repr

/-- Prefixes with the namespaces they are bound to, the innermost declaration first; the empty
prefix is that of the default namespace. -/
abbrev Scope := List (String × String)

namespace Scope

def namespace? (scope : Scope) (pre : String) : Option String := List.lookup pre scope

/-- The bindings that count: the first of each prefix. -/
def visible : Scope → Scope
  | [] => []
  | (pre, uri) :: outer => (pre, uri) :: (visible outer).filter (·.1 ≠ pre)

end Scope

/-- An attribute. `own` is the part of the value that does not come from entities: what is left of
the value outside the document. -/
structure Attribute where
  name : ExpandedName
  value : String
  own : String := value
  /-- The prefix that the name is written with, if it is in a namespace. -/
  pre : String := ""
  deriving DecidableEq, Repr

/-- What a start tag says. The document type may supply values for attributes that the tag does not
have; they are found when asked for by name, but they are not part of the tag. -/
structure Tag where
  name : ExpandedName
  /-- The prefix that the name is written with, if it is in a namespace. -/
  pre : String := ""
  declarations : Scope
  attributes : List Attribute
  defaults : List Attribute := []
  deriving DecidableEq, Repr

inductive Node where
  | element (tag : Tag) (content : List Node)
  | text (value : String)
  | comment (value : String)
  | instruction (target data : String)
  | reference (entity : String)
  deriving Repr

namespace Node

def isText : Node → Bool
  | text _ => true
  | _ => false

def isElement : Node → Bool
  | element _ _ => true
  | _ => false

mutual

/-- The character data of a node and everything in it, in order. Comments and processing
instructions have none; a reference counts with the text it is written with. -/
def characterData : Node → String
  | element _ content => characterDataOf content
  | text value => value
  | comment _ => ""
  | instruction _ _ => ""
  | reference entity => "&" ++ entity ++ ";"

def characterDataOf : List Node → String
  | [] => ""
  | n :: rest => characterData n ++ characterDataOf rest

end

mutual

/-- The number of nodes in a tree. -/
def size : Node → Nat
  | element _ content => sizeOfList content + 1
  | _ => 1

def sizeOfList : List Node → Nat
  | [] => 0
  | n :: rest => size n + sizeOfList rest

end

/-- A tag outside its document, where no entity and no default is known. -/
def detachedTag (tag : Tag) : Tag :=
  { tag with attributes := tag.attributes.map fun a => { a with value := a.own }, defaults := [] }

mutual

def detached : Node → Node
  | element tag content => element (detachedTag tag) (detachedAll content)
  | n => n

def detachedAll : List Node → List Node
  | [] => []
  | n :: rest => detached n :: detachedAll rest

end

end Node
end ServiceDescription.Xml
