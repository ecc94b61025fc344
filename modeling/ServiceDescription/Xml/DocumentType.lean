import ServiceDescription.Xml.Findings
import ServiceDescription.Xml.Markup

/-! What a document type tells about a document: the entities it may refer to and the attributes its
elements have. External entities and an external subset are known to exist and never read. -/
namespace ServiceDescription.Xml
open Markup

/-- A general entity: its replacement text, a parsed external one, or one that is no text. -/
inductive Entity where
  | internal (text : List Char)
  | external
  | unparsed
  deriving DecidableEq, Repr

/-- What the values of an attribute are made of. -/
inductive AttributeType where
  | text | identifier | name | names | token | tokens
  deriving DecidableEq, Repr

structure AttributeDeclaration where
  element : String
  name : String
  type : AttributeType
  value : Option String
  deriving DecidableEq, Repr

structure DocumentType where
  entities : List (String × Entity) := []
  parameters : List (String × Option (List Char)) := []
  attributes : List AttributeDeclaration := []
  elements : List String := []
  notations : List String := []
  externalSubset : Bool := false
  parameterReferences : Bool := false
  standalone : Bool := false
  /-- How much text each entity stands for, and how much all references may stand for. -/
  sizes : List (String × Nat) := []
  allowance : Nat := 1000000
  remarks : List Remark := []
  deriving DecidableEq, Repr

namespace DocumentType

/-- Where declarations may stand unread, an entity without a known declaration is no error. -/
def mayHideDeclarations (d : DocumentType) : Bool :=
  !d.standalone && (d.externalSubset || d.parameterReferences)

def remark (d : DocumentType) (rs : List Remark) : DocumentType :=
  { d with remarks := d.remarks ++ rs }

/-- The first declaration of an entity counts. -/
def addEntity (d : DocumentType) (name : String) (e : Entity) : DocumentType :=
  if d.entities.any (·.1 = name) then d else { d with entities := d.entities ++ [(name, e)] }

def addParameter (d : DocumentType) (name : String) (text : Option (List Char)) : DocumentType :=
  if d.parameters.any (·.1 = name) then d
  else { d with parameters := d.parameters ++ [(name, text)] }

/-- The declaration of an attribute, if there is one. -/
def attribute? (d : DocumentType) (element name : String) : Option AttributeDeclaration :=
  d.attributes.find? fun a => a.element = element && a.name = name

def hasIdentifier (d : DocumentType) (element : String) : Bool :=
  d.attributes.any fun a => a.element = element && a.type = .identifier

/-- The first declaration of an attribute counts. An element has one identifier at most. -/
def addAttribute (d : DocumentType) (a : AttributeDeclaration) : DocumentType :=
  if (d.attribute? a.element a.name).isSome then d.remark [.warning]
  else
    let again := a.type = .identifier && d.hasIdentifier a.element
    { d with attributes := d.attributes ++ [a] }.remark (if again then [.fault] else [])

def addElement (d : DocumentType) (name : String) : DocumentType :=
  if d.elements.contains name then d.remark [.fault]
  else { d with elements := d.elements ++ [name] }

def addNotation (d : DocumentType) (name : String) : DocumentType :=
  if d.notations.contains name then d.remark [.fault]
  else { d with notations := d.notations ++ [name] }

/-- A name in which a colon is out of place. -/
def remarkColon (d : DocumentType) (name : String) : DocumentType :=
  d.remark (if name.toList.contains ':' then [.fault] else [])

/-- Whether the value of an attribute is made of names or tokens, so that blanks only divide it. -/
def isTokenized (d : DocumentType) (element name : String) : Bool :=
  (d.attribute? element name).any (·.type ≠ .text)

/-- The attributes that an element has unless its tag says otherwise. -/
def supplied (d : DocumentType) (element : String) : List (String × String) :=
  d.attributes.filterMap fun a =>
    if a.element = element then a.value.map ((a.name, ·)) else none

/-! ## Entities -/

/-- The names of the entities that a text refers to. -/
def referred (text : List Char) : List String :=
  ((runs? text).getD []).filterMap fun
    | .entity name => some name
    | _ => none

/-- What a reference costs beside the text it stands for. -/
def referenceCost : Nat := 20

/-- How many entities may be open inside one another. -/
def maxNesting : Nat := 19

/-- How much text each entity stands for when references in it are replaced `depth` times. -/
def sizesAt (d : DocumentType) : Nat → List (String × Nat)
  | 0 => []
  | depth + 1 =>
    let inner := d.sizesAt depth
    d.entities.filterMap fun
      | (name, .internal text) =>
        some (name, (referred text).foldl
          (fun n other => n + (inner.lookup other).getD 0 + referenceCost) text.length)
      | _ => none

def measured (d : DocumentType) : DocumentType :=
  { d with sizes := d.sizesAt (maxNesting + 1) }

/-- Refers to an entity; the references of a document must not stand for too much text. -/
def copy? (d : DocumentType) (name : String) (f : Findings) : Option Findings :=
  let copied := f.copied + (d.sizes.lookup name).getD 0 + referenceCost
  if copied ≤ d.allowance then some { f with copied := copied } else none

/-- Looks into an entity that stands in an attribute value: the entities it needs must be there, at
most `depth` inside one another, and none may bring in markup. What was checked is not checked
again. -/
def check? (d : DocumentType) : Nat → Findings → String → Option Findings
  | depth, f, name =>
    if f.checked.contains name then some f
    else
      match d.entities.lookup name, depth with
      | some (.internal text), depth + 1 => do
        let f ← (← attributeValue? text).foldlM (fun f r =>
          match r with
          | .entity other => d.check? depth f other
          | _ => some f) f
        return { f with checked := name :: f.checked }
      | some _, _ => none
      | none, _ => if d.mayHideDeclarations then some (f.remark [.warning]) else none

/-- The text that an entity stands for in an attribute value, with `space` done to what is written
out in it. A character reference keeps what it names. -/
def replacement (d : DocumentType) (space : Char → Char) : Nat → String → List Char
  | 0, _ => []
  | depth + 1, name =>
    match d.entities.lookup name with
    | some (.internal text) =>
      ((attributeValue? text).getD []).flatMap fun
        | .literal s => s.map space
        | .character c => [c]
        | .entity other => d.replacement space depth other
    | _ => []

end DocumentType

/-- Stylesheet and model instructions may start with the letters xml. -/
def instructionRemarks (target : String) : List Remark :=
  if ["xml-stylesheet", "xml-model"].contains target then []
  else
    (if (target.toList.take 3).map Char.toLower = ['x', 'm', 'l'] then [.warning] else []) ++
      (if target.toList.contains ':' then [.fault] else [])

end ServiceDescription.Xml
