import ServiceDescription.Datatype.Restriction
import ServiceDescription.Schema.Strict.Environment

/-! Simple types as a schema declares them. -/
namespace ServiceDescription.Schema.Strict
open Xml Datatype

namespace Environment

/-- The type that an element names with one of its attributes, or has within. -/
def typeOf? (e : Environment) (l : Located) (name : String) : Option TypeTarget :=
  match l.attr? name with
  | some _ => e.typeNamed? l name
  | none =>
    ((part? l "simpleType").map .simple).or ((part? l "complexType").map .complex)

/-- The types that a list of references names. -/
def typesNamed? (e : Environment) (l : Located) (name : String) : Option (List TypeTarget) :=
  (listed (l.attr name)).mapM fun raw =>
    ((Reference.ofText? l.scope raw).filter e.allows).bind e.type?

end Environment

/-- The facets of a restriction. -/
def facetsOf (l : Located) : List Facet :=
  l.children.filterMap fun c =>
    if c.space = Vocabulary.xsd then
      (FacetKind.ofName? c.localName).map fun kind =>
        ⟨kind, c.attr "value", c.attr "fixed" = "true", c.scope⟩
    else none

/-- What a declaration of a type excludes. One without a name excludes nothing. -/
def finalOf (e : Environment) (l : Located) : List String :=
  if (l.attr? "name").isSome then excluded e l "final" "finalDefault" else []

/-- A simple type with everything it is made of, at most `n` steps away. -/
def simpleIn? (e : Environment) : Nat → TypeTarget → Option ValueType
  | 0, _ => none
  | _, .anyType => none
  | _, .complex _ => none
  | _, .builtIn t => some (.builtIn t)
  | n + 1, .simple l =>
    match (partsOf l ["restriction", "list", "union"]).head? with
    | none => none
    | some d =>
      match d.localName with
      | "restriction" => do
        let base ← simpleIn? e n (← e.typeOf? d "base")
        return .restriction l.path (finalOf e l) base (facetsOf d)
      | "list" => do
        return .list l.path (finalOf e l) (← simpleIn? e n (← e.typeOf? d "itemType"))
      | _ => do
        let named ← e.typesNamed? d "memberTypes"
        let targets := named ++ (parts d "simpleType").map .simple
        return .union l.path (finalOf e l) (← targets.mapM (simpleIn? e n))

/-- A simple type, unless it refers to something unknown or to itself. -/
def simple? (e : Environment) (t : TypeTarget) : Option ValueType := simpleIn? e e.depth t

/-- The type of an attribute; any simple type without a word. -/
def attributeType? (e : Environment) (l : Located) : Option ValueType :=
  if (l.attr? "type").isNone && (part? l "simpleType").isNone then some .root
  else (e.typeOf? l "type").bind (simple? e)

/-- Whether a text is a literal of a type, and may be given to an attribute or an element without
one. Identifiers may not. -/
def mayBeDefault (e : Environment) (l : Located) (t : ValueType) (text : String) : Bool :=
  !t.isIdentifier && (t.read? (e.around l) text.toList).isSome

/-- The value that an attribute or an element has if it is not given another. -/
def fallback? (l : Located) : Option String := (l.attr? "default").or (l.attr? "fixed")

end ServiceDescription.Schema.Strict
