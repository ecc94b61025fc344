import ServiceDescription.Schema.Strict.Copy
import ServiceDescription.Schema.Strict.Grammar
import ServiceDescription.Schema.Strict.Path
import ServiceDescription.Schema.Strict.Substitution

/-! The strict check of a schema on its own. Every construct follows the grammar, every reference
reaches something, names are declared once, no type is derived as it must not be, values fit their
types, and content can be read without looking ahead. -/
namespace ServiceDescription.Schema.Strict
open Xml

/-- The namespace of the attributes that instances may have anyway. -/
def instanceSpace : String := "http://www.w3.org/2001/XMLSchema-instance"

/-- An attribute must not look like a declaration of a namespace, nor belong to those that all
elements have. -/
def isAttributeName (r : Reference) : Bool := r.name ≠ "xmlns" && r.space ≠ some instanceSpace

/-- What an attribute is given fits its type. -/
def attributeHolds (e : Environment) (l : Located) (name : Reference) : Bool :=
  isAttributeName name &&
    match attributeType? e l with
    | some t => (fallback? l).all (mayBeDefault e l t)
    | none => false

/-- What a use of an attribute is given fits the type of the declaration, and stays fixed. -/
def attributeReferenceHolds (e : Environment) (l : Located) : Bool :=
  match e.declaredNamed? "attribute" l "ref" with
  | none => false
  | some d =>
    match attributeType? e d with
    | some t =>
      (fallback? l).all (mayBeDefault e l t) &&
        !((d.attr? "fixed").isSome && (l.attr? "default").isSome)
    | none => false

/-- What an element is given fits its type: a value, or text between elements that may be
missing. -/
def elementHolds (e : Environment) (l : Located) : Bool :=
  match elementType? e l with
  | none => false
  | some type =>
    joinsGroup e l &&
      (fallback? l).all fun text =>
        match type.content with
        | .value t => mayBeDefault e l t text
        | .elements isMixed p => isMixed && p.isEmptiable
        | .empty => false

/-- Content of elements can be read without looking ahead. -/
def contentHolds (e : Environment) (d : Definition) : Bool :=
  match d.content with
  | .elements _ p => ContentModel.isDeterministic (substitutes e) p
  | _ => true

def isModelGroup (l : Located) : Bool := ["sequence", "choice", "all"].contains l.localName

/-- Nothing is asked of a reference that never comes, nor of one right in a group that never
comes. -/
def isIdle (s : Site) : Bool :=
  (Range.of s.element).isVoid ||
    (isModelGroup s.parent && (Range.of s.parent).isVoid)

/-- Within a group, no group of all is referred to. -/
def groupReferenceHolds (e : Environment) (s : Site) : Bool :=
  match e.declaredNamed? "group" s.element "ref" with
  | none => false
  | some d =>
    !isModelGroup s.parent || (part? d "all").isNone

/-- The constraint that another refers to has as many fields. -/
def keyReferenceHolds (e : Environment) (keys : List Located) (l : Located) : Bool :=
  match e.reference? l "refer" with
  | none => false
  | some r =>
    r.space = e.target &&
      match keys.find? (·.attr? "name" = some r.name) with
      | some key => (parts key "field").length = (parts l "field").length
      | none => false

/-- What is asked of a construct beyond the grammar; `keys` are the constraints that may be referred
to. -/
def Site.holds (e : Environment) (keys : List Located) (s : Site) : Bool :=
  let l := s.element
  match s.construct with
  | .globalElement | .localElement => elementHolds e l
  | .elementReference => isIdle s || (e.declaredNamed? "element" l "ref").isSome
  | .groupReference => isIdle s || groupReferenceHolds e s
  | .globalAttribute => attributeHolds e l ⟨e.target, l.attr "name"⟩
  | .localAttribute => attributeHolds e l (AttributeUse.localName e l)
  | .attributeReference => attributeReferenceHolds e l
  | .prohibitedAttribute => isAttributeName (AttributeUse.localName e l)
  | .prohibitedReference =>
    (s.parent.localName ≠ "restriction" && s.parent.localName ≠ "complexType") ||
      (e.declaredNamed? "attribute" l "ref").isSome
  | .attributeGroupReference => (e.declaredNamed? "attributeGroup" l "ref").isSome
  | .attributeGroupDefinition =>
    (Attributes.of? e e.depth l).any fun a => AttributeUse.areDistinct a.uses
  | .globalSimpleType | .localSimpleType => (simple? e (.simple l)).any (·.isSound (e.around l))
  | .globalComplexType | .localComplexType =>
    (Definition.of? e (.complex l)).any (contentHolds e)
  | .selector => Path.isExpression false l.scope (l.attr "xpath")
  | .field => Path.isExpression true l.scope (l.attr "xpath")
  | .keyReference => keyReferenceHolds e keys l
  | _ => true

/-- The groups that a group refers to, whatever elements in it refer to. -/
def groupsIn (e : Environment) (l : Located) : List String :=
  (partsOf l ["group", "sequence", "choice", "all"]).attach.flatMap fun ⟨c, _⟩ =>
    if (Range.of c).isVoid then []
    else if c.localName = "group" then
      ((e.declaredNamed? "group" c "ref").map (·.attr "name")).toList
    else groupsIn e c
termination_by l.weight
decreasing_by
  rename_i h _ _
  exact Nat.lt_of_le_of_lt (Located.weight_le_weights (List.mem_filter.mp h).1)
    l.weights_children_lt

/-- Whether following edges comes to an end: what leads only to settled names is settled, in `n`
rounds. -/
def isAcyclic (edges : List (String × List String)) : Nat → List String → Bool
  | 0, settled => edges.all fun d => settled.contains d.1
  | n + 1, settled =>
    isAcyclic edges n ((edges.filter fun d => d.2.all settled.contains).map (·.1))

def hasAcyclicGroups (e : Environment) : Bool :=
  let groups := parts e.root "group"
  isAcyclic (groups.map fun g => (g.attr "name", groupsIn e g)) groups.length []

/-- The names of some declarations. -/
def names (ls : List Located) : List String := ls.filterMap (·.attr? "name")

/-- Names of one kind are declared once. Simple types and complex types share their names, and the
constraints of all elements do. -/
def hasDistinctNames (e : Environment) (sites : List Site) : Bool :=
  let constraints := sites.filter fun s =>
    s.construct = .constraint || s.construct = .keyReference
  [["simpleType", "complexType"], ["element"], ["attribute"], ["group"], ["attributeGroup"],
    ["notation"]].all (fun kinds => decide (names (partsOf e.root kinds)).Nodup) &&
    decide (names (constraints.map (·.element))).Nodup

/-- Identifiers are given once, also those of the XML vocabulary. -/
def hasDistinctIdentifiers (e : Environment) (sites : List Site) : Bool :=
  let own := (sites.filter (·.construct.hasIdentifier)).filterMap fun s =>
    (s.element.attr? "id").map fun id => ClassicName.trim id.toList
  let others := (e.root :: e.root.descendants).filterMap fun l =>
    (l.attrNamed? ⟨Vocabulary.xml, "id"⟩).map (·.toList)
  decide own.Nodup && own.all (!others.contains ·)

/-- Whether a fragment is a schema that passes the check. -/
def passes (l : Located) : Bool :=
  let root := checkedCopy l
  let e := Environment.of root
  root.localName = "schema" && root.space = Vocabulary.xsd &&
    match sites? e .schema false root root with
    | none => false
    | some sites =>
      let keys := (sites.filter (·.construct = .constraint)).map (·.element)
      hasDistinctNames e sites && hasDistinctIdentifiers e sites && hasAcyclicGroups e &&
        sites.all (·.holds e keys)

end ServiceDescription.Schema.Strict
