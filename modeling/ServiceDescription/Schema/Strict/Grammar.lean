import ServiceDescription.Schema.Strict.Construct
import ServiceDescription.Schema.Strict.Environment

/-! Whether the elements of a schema stand where they may stand, with the attributes they may have.
Comments and blanks between elements do not matter. -/
namespace ServiceDescription.Schema.Strict
open Xml Datatype

/-- An element of a schema as a construct, and the element that it stands in. -/
structure Site where
  construct : Construct
  element : Located
  parent : Located
  deriving Repr

namespace ValueKind

def isSimpleName (raw : String) : Bool :=
  ClassicName.isSimpleName (ClassicName.trim raw.toList)

def isResource (raw : String) : Bool :=
  let s := WhiteSpace.collapse.apply raw.toList
  s.isEmpty || Literal.isResource s

/-- Namespaces are listed, or described by one word that must not be in a list. -/
def areNamespaces (raw : String) : Bool :=
  ["##any", "##other"].contains raw ||
    (listed raw).all fun word =>
      ["##targetNamespace", "##local"].contains word ||
        (word ≠ "##any" && word ≠ "##other" && isResource word)

/-- Whether a value is of some kind where the declarations of `scope` hold. -/
def admits (e : Environment) (scope : Scope) (raw : String) : ValueKind → Bool
  | anything => true
  | boolean => ["true", "false", "1", "0"].contains raw
  | simpleName => isSimpleName raw
  | resource => isResource raw
  | minimum => (natural? raw).isSome
  | maximum => (maximum? raw).isSome
  | oneOf values => values.contains raw
  | allOrListOf values => raw = "#all" || (listed raw).all values.contains
  | namespaces => areNamespaces raw
  | reference => (Reference.ofText? scope raw).any e.allows
  | references => (listed raw).all fun word => (Reference.ofText? scope word).any e.allows

end ValueKind

namespace Construct

def attribute? (k : Construct) (name : String) : Option AttributeRule :=
  k.attributes.find? (·.name = name)

/-- Attributes of other vocabularies are not looked at, the language of a documentation apart. -/
def admitsAttribute (e : Environment) (k : Construct) (l : Located) (a : Attribute) : Bool :=
  if a.name.space = "" then
    match k.attribute? a.name.localName with
    | some rule => rule.kind.admits e l.scope a.value
    | none =>
      if a.name.localName = "id" && k.hasIdentifier then ValueKind.isSimpleName a.value
      else k.isOpen
  else if k = .documentation && a.name = ⟨Vocabulary.xml, "lang"⟩ then
    Literal.isLanguage (WhiteSpace.collapse.apply a.value.toList)
  else k.isOpen || a.name.space ≠ Vocabulary.xsd

def admitsAttributes (e : Environment) (k : Construct) (l : Located) : Bool :=
  l.attributes.all (k.admitsAttribute e l) &&
    k.attributes.all fun rule => !rule.isRequired || (l.attr? rule.name).isSome

/-- The construct that a child is: an element of the vocabulary that may stand there. -/
def ofChild? (k : Construct) (c : Located) : Option Construct :=
  if c.space = Vocabulary.xsd then
    (k.child? c.localName).map fun k =>
      let k := if (c.attr? "ref").isSome then k.referring else k
      if c.attr? "use" = some "prohibited" then k.prohibited else k
  else none

end Construct

/-- Whether blanks are kept in an element, given whether they are kept around it. -/
def keepsBlanks (outer : Bool) (l : Located) : Bool :=
  match l.attrNamed? ⟨Vocabulary.xml, "space"⟩ with
  | some "preserve" => true
  | some "default" => false
  | _ => outer

/-- Only blanks that are not kept may stand between the children, and no reference to an entity may
stand before them. -/
def hasOnlyElements (keeps : Bool) (l : Located) : Bool :=
  (match l.content.head? with
    | some (.reference _) => false
    | _ => true) &&
  l.content.all fun
    | .text value => !keeps && value.toList.all isSpace
    | _ => true

def hasAttribute (l : Located) (name : String) : Bool := (l.attr? name).isSome

def hasChild (l : Located) (name : String) : Bool := (l.childNamed? name none).isSome

/-- A value may be given in one way, and only to what may be missing. -/
def hasOneValue (l : Located) : Bool :=
  !(hasAttribute l "default" && hasAttribute l "fixed") &&
    !(hasAttribute l "default" && (l.attr? "use").any (· ≠ "optional"))

/-- A type is named, or it stands in the element. -/
def hasOneType (l : Located) : Bool :=
  !(hasAttribute l "type" && (hasChild l "simpleType" || hasChild l "complexType"))

/-- The conditions that join several attributes and children of one construct. -/
def agrees (e : Environment) (l : Located) : Construct → Bool
  | .importing => l.attr? "namespace" ≠ e.target
  | .globalElement => hasOneType l && hasOneValue l
  | .localElement => hasOneType l && hasOneValue l && (Range.of l).isSound
  | .globalAttribute | .localAttribute => hasOneType l && hasOneValue l
  | .attributeReference | .prohibitedAttribute | .prohibitedReference => hasOneValue l
  | .sequence | .choice | .any | .groupReference | .elementReference => (Range.of l).isSound
  | .all =>
    (Range.of l).least ≤ 1 && (Range.of l).most = some 1 && l.children.all mayBeInAll
  | .definedAll => l.children.all mayBeInAll
  | .globalComplexType | .localComplexType =>
    !(hasChild l "simpleContent" || hasChild l "complexContent") ||
      (l.children.filter (·.isElement)).all
        (["annotation", "simpleContent", "complexContent"].contains ·.localName)
  | .typeRestriction => hasAttribute l "base" != hasChild l "simpleType"
  | .listType => hasAttribute l "itemType" != hasChild l "simpleType"
  | .unionType => !(listed (l.attr "memberTypes")).isEmpty || hasChild l "simpleType"
  | _ => true
where
  mayBeInAll (c : Located) : Bool := c.localName ≠ "element" || (Range.of c).most.any (· ≤ 1)

/-- The sites of an element and of everything in it, if all of it follows the grammar. What a note
holds is not looked at. -/
def sites? (e : Environment) (k : Construct) (keeps : Bool) (parent l : Located) :
    Option (List Site) :=
  let keeps := keepsBlanks keeps l
  if !k.admitsAttributes e l then none
  else if k.isNote then some []
  else if !(hasOnlyElements keeps l && agrees e l k &&
      Slot.inOrder k.slots ((l.children.filter (·.isElement)).map (·.localName))) then none
  else do
    let below ← l.children.attach.mapM fun ⟨c, _⟩ =>
      if c.isElement then
        match k.ofChild? c with
        | some k => sites? e k keeps l c
        | none => none
      else some []
    return ⟨k, l, parent⟩ :: below.flatten
termination_by l.weight
decreasing_by
  exact Nat.lt_of_le_of_lt (Located.weight_le_weights ‹_›) l.weights_children_lt

end ServiceDescription.Schema.Strict
