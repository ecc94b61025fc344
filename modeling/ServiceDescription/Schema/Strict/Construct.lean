/-! The grammar of schema documents: for every construct the attributes it may have, what their
values have to be, and the children it may have, in order. What may stand below an element of one
name depends on where it stands, so a construct is an element at a place. -/
namespace ServiceDescription.Schema.Strict

inductive Construct where
  | schema | importing | annotation | appinfo | documentation
  | globalElement | localElement | elementReference
  | globalComplexType | localComplexType
  | globalSimpleType | localSimpleType
  | sequence | choice | all | any | anyAttribute
  | groupDefinition | groupReference
  /-- The one group in the definition of a group. -/
  | definedSequence | definedChoice | definedAll
  | globalAttribute | localAttribute | attributeReference
  | prohibitedAttribute | prohibitedReference
  | attributeGroupDefinition | attributeGroupReference
  | complexContent | simpleContent
  | complexDerivation | simpleExtension | simpleRestriction
  | typeRestriction | listType | unionType
  | facet
  | constraint | keyReference | selector | field | notationName
  deriving DecidableEq, Repr

/-- What the value of an attribute has to be. -/
inductive ValueKind where
  | anything
  | boolean
  | simpleName
  | resource
  | minimum
  | maximum
  | oneOf (values : List String)
  | allOrListOf (values : List String)
  | namespaces
  | reference
  | references
  deriving DecidableEq, Repr

structure AttributeRule where
  name : String
  kind : ValueKind
  isRequired : Bool
  deriving DecidableEq, Repr

namespace AttributeRule

def optional (name : String) (kind : ValueKind) : AttributeRule := ⟨name, kind, false⟩
def required (name : String) (kind : ValueKind) : AttributeRule := ⟨name, kind, true⟩

end AttributeRule

/-- A place for children of some names: for one, or for any number in any order. -/
structure Slot where
  children : List (String × Construct)
  isRepeated : Bool
  isRequired : Bool
  deriving DecidableEq, Repr

namespace Slot

def optional (children : List (String × Construct)) : Slot := ⟨children, false, false⟩
def required (children : List (String × Construct)) : Slot := ⟨children, false, true⟩
def repeated (children : List (String × Construct)) : Slot := ⟨children, true, false⟩
def repeatedRequired (children : List (String × Construct)) : Slot := ⟨children, true, true⟩

def takes (s : Slot) (name : String) : Bool := s.children.any (·.1 = name)

/-- The names that a slot leaves to the slots after it when it takes all it can; none if it needs a
name and there is none for it. -/
def fill? (s : Slot) : List String → Option (List String)
  | [] => if s.isRequired then none else some []
  | name :: rest =>
    if s.takes name then some (if s.isRepeated then rest.dropWhile s.takes else rest)
    else if s.isRequired then none
    else some (name :: rest)

/-- Whether names stand in the order of some slots and none is left over. -/
def inOrder : List Slot → List String → Bool
  | [], names => names.isEmpty
  | s :: slots, names => (s.fill? names).any (inOrder slots)

end Slot

namespace Construct

def form : ValueKind := .oneOf ["qualified", "unqualified"]

def occurrence : List AttributeRule :=
  [.optional "minOccurs" .minimum, .optional "maxOccurs" .maximum]

def wildcard : List AttributeRule :=
  [.optional "namespace" .namespaces,
    .optional "processContents" (.oneOf ["skip", "lax", "strict"])]

def fallback : List AttributeRule := [.optional "default" .anything, .optional "fixed" .anything]

def usage : AttributeRule := .optional "use" (.oneOf ["optional", "prohibited", "required"])

/-- The methods that derive one complex type from another. -/
def methods : List String := ["extension", "restriction"]

/-- The methods that derive one simple type from others. -/
def simpleMethods : List String := ["restriction", "list", "union"]

/-- Some constructs may have attributes that are not known. -/
def isOpen : Construct → Bool
  | schema | facet | notationName => true
  | _ => false

/-- Notes hold what they like. -/
def isNote : Construct → Bool
  | appinfo | documentation => true
  | _ => false

/-- Most constructs may have an identifier; that of an import is not looked at. -/
def hasIdentifier : Construct → Bool
  | appinfo | documentation | importing => false
  | _ => true

def attributes : Construct → List AttributeRule
  | schema =>
    [.optional "targetNamespace" .resource, .optional "elementFormDefault" form,
      .optional "attributeFormDefault" form,
      .optional "finalDefault" (.allOrListOf ("extension" :: simpleMethods)),
      .optional "blockDefault" (.allOrListOf ("substitution" :: methods))]
  | importing =>
    [.optional "id" .anything, .optional "namespace" .resource,
      .optional "schemaLocation" .resource]
  | annotation => []
  | appinfo | documentation => [.optional "source" .resource]
  | globalElement =>
    [.required "name" .simpleName, .optional "type" .reference] ++ fallback ++
      [.optional "nillable" .boolean, .optional "abstract" .boolean,
        .optional "final" (.allOrListOf methods),
        .optional "block" (.allOrListOf ("substitution" :: methods)),
        .optional "substitutionGroup" .reference]
  | localElement =>
    [.required "name" .simpleName, .optional "type" .reference] ++ fallback ++
      [.optional "nillable" .boolean, .optional "block" (.allOrListOf ("substitution" :: methods)),
        .optional "form" form] ++
      occurrence
  | elementReference => .required "ref" .reference :: occurrence
  | globalComplexType =>
    [.required "name" .simpleName, .optional "mixed" .boolean, .optional "abstract" .boolean,
      .optional "final" (.allOrListOf methods), .optional "block" (.allOrListOf methods)]
  | localComplexType => [.optional "mixed" .boolean]
  | globalSimpleType =>
    [.required "name" .simpleName, .optional "final" (.allOrListOf simpleMethods)]
  | localSimpleType => []
  | sequence | choice | all => occurrence
  | definedSequence | definedChoice | definedAll => []
  | any => wildcard ++ occurrence
  | anyAttribute => wildcard
  | groupDefinition => [.required "name" .simpleName]
  | groupReference => .required "ref" .reference :: occurrence
  | globalAttribute =>
    [.required "name" .simpleName, .optional "type" .reference] ++ fallback
  | localAttribute | prohibitedAttribute =>
    [.required "name" .simpleName, .optional "type" .reference, .optional "form" form,
      usage] ++ fallback
  | attributeReference | prohibitedReference =>
    [.required "ref" .reference, usage] ++ fallback
  | attributeGroupDefinition => [.required "name" .simpleName]
  | attributeGroupReference => [.required "ref" .reference]
  | complexContent => [.optional "mixed" .boolean]
  | simpleContent => []
  | complexDerivation => [.required "base" .reference]
  | simpleExtension | simpleRestriction => [.required "base" .reference]
  | typeRestriction => [.optional "base" .reference]
  | listType => [.optional "itemType" .reference]
  | unionType => [.optional "memberTypes" .references]
  | facet => [.required "value" .anything]
  | constraint => [.required "name" .simpleName]
  | keyReference => [.required "name" .simpleName, .required "refer" .reference]
  | selector | field => [.required "xpath" .anything]
  | notationName => [.required "name" .anything]

def remark : Slot := .optional [("annotation", annotation)]

def particle : List (String × Construct) :=
  [("group", groupReference), ("all", all), ("choice", choice), ("sequence", sequence)]

def members : Slot :=
  .repeated [("element", localElement), ("group", groupReference), ("choice", choice),
    ("sequence", sequence), ("any", any)]

def attributeUses : List Slot :=
  [.repeated [("attribute", localAttribute), ("attributeGroup", attributeGroupReference)],
    .optional [("anyAttribute", anyAttribute)]]

def facets : Slot :=
  .repeated <|
    ["enumeration", "pattern", "whiteSpace", "minInclusive", "maxInclusive", "minExclusive",
      "maxExclusive", "length", "minLength", "maxLength", "totalDigits", "fractionDigits"].map
      (·, facet)

def inlineSimpleType : List (String × Construct) := [("simpleType", localSimpleType)]

def inlineType : Slot := .optional (("complexType", localComplexType) :: inlineSimpleType)

def constraints : Slot :=
  .repeated [("unique", constraint), ("key", constraint), ("keyref", keyReference)]

/-- The places for the children of a construct, in order. -/
def slots : Construct → List Slot
  | schema =>
    [.repeated [("import", importing), ("annotation", annotation)],
      .repeated [("simpleType", globalSimpleType), ("complexType", globalComplexType),
        ("group", groupDefinition), ("attributeGroup", attributeGroupDefinition),
        ("element", globalElement), ("attribute", globalAttribute), ("notation", notationName),
        ("annotation", annotation)]]
  | annotation => [.repeated [("appinfo", appinfo), ("documentation", documentation)]]
  | appinfo | documentation => []
  | globalElement | localElement => [remark, inlineType, constraints]
  | globalComplexType | localComplexType =>
    [remark, .optional ([("simpleContent", simpleContent), ("complexContent", complexContent)] ++
      particle)] ++ attributeUses
  | globalSimpleType | localSimpleType =>
    [remark, .required [("restriction", typeRestriction), ("list", listType),
      ("union", unionType)]]
  | sequence | choice | definedSequence | definedChoice => [remark, members]
  | all | definedAll => [remark, .repeated [("element", localElement)]]
  | importing | any | anyAttribute | elementReference | groupReference | attributeReference
  | prohibitedAttribute | prohibitedReference | attributeGroupReference | facet
  | selector | field | notationName => [remark]
  | groupDefinition =>
    [remark, .optional [("all", definedAll), ("choice", definedChoice),
      ("sequence", definedSequence)]]
  | globalAttribute | localAttribute => [remark, .optional inlineSimpleType]
  | attributeGroupDefinition => remark :: attributeUses
  | complexContent =>
    [remark, .required [("extension", complexDerivation), ("restriction", complexDerivation)]]
  | simpleContent =>
    [remark, .required [("extension", simpleExtension), ("restriction", simpleRestriction)]]
  | complexDerivation => [remark, .optional particle] ++ attributeUses
  | simpleExtension => remark :: attributeUses
  | simpleRestriction => [remark, .optional inlineSimpleType, facets] ++ attributeUses
  | typeRestriction => [remark, .optional inlineSimpleType, facets]
  | listType => [remark, .optional inlineSimpleType]
  | unionType => [remark, .repeated inlineSimpleType]
  | constraint | keyReference =>
    [remark, .required [("selector", selector)], .repeatedRequired [("field", field)]]

/-- The construct that a child of some name is. -/
def child? (k : Construct) (name : String) : Option Construct :=
  (k.slots.flatMap (·.children)).lookup name

/-- The construct of an element that has a reference. -/
def referring : Construct → Construct
  | localElement => elementReference
  | localAttribute => attributeReference
  | k => k

/-- The construct of an attribute that is prohibited. -/
def prohibited : Construct → Construct
  | localAttribute => prohibitedAttribute
  | attributeReference => prohibitedReference
  | k => k

end Construct
end ServiceDescription.Schema.Strict
