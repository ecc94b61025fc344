import ServiceDescription.Schema.Strict.ContentModel
import ServiceDescription.Schema.Strict.Definition

/-! Elements that may come in the place of others, and the types of elements. -/
namespace ServiceDescription.Schema.Strict
open Xml

/-- The heads that an element may come in the place of, the nearest first, if they do not lead back
to it. At most `n` of them are followed. -/
def heads? (e : Environment) : Nat → Located → Option (List Located)
  | 0, _ => none
  | n + 1, l =>
    if (l.attr? "substitutionGroup").isNone then some []
    else do
      let head ← e.declaredNamed? "element" l "substitutionGroup"
      return head :: (← heads? e n head)

/-- The target of the type of an element, its own or that of its nearest head with one. -/
def elementTarget? (e : Environment) (l : Located) : Option TypeTarget := do
  let heads ← heads? e e.depth l
  let hasType (d : Located) :=
    (d.attr? "type").isSome || (part? d "simpleType").isSome || (part? d "complexType").isSome
  match (l :: heads).find? hasType with
  | some d => e.typeOf? d "type"
  | none => some .anyType

def elementType? (e : Environment) (l : Located) : Option Definition :=
  (elementTarget? e l).bind (Definition.of? e)

/-- The methods that are looked at between a type and that of a head: up to a restriction. -/
def decisive : List Method → List Method
  | [] => []
  | .restriction :: _ => [.restriction]
  | .extension :: ms => .extension :: decisive ms

/-- What complex types on the way from a type to that of a head do not allow, the first apart. -/
def blocked (headType : Definition) : Definition → List String
  | .complex c base =>
    c.block ++ if Definition.isSame (.complex c base) headType then [] else blocked headType base
  | _ => []

/-- Whether a head lets an element come in its place. -/
def letsIn (e : Environment) (head l : Located) : Bool :=
  let block := excluded e head "block" "blockDefault"
  match elementType? e head, elementType? e l with
  | some headType, some type =>
    let onTheWay :=
      match type with
      | .complex _ base => blocked headType base
      | _ => []
    !block.contains "substitution" &&
      (type.isSame headType ||
        (decisive (type.methodsTo headType)).all fun m => !(block ++ onTheWay).contains m.name)
  | _, _ => false

/-- The elements that may come in the place of a global one. Abstract ones come nowhere. -/
def substitutes (e : Environment) (name : Reference) : List Reference :=
  match e.declared? "element" name with
  | none => []
  | some head =>
    ((parts e.root "element").filter fun l =>
      (l.attr? "substitutionGroup").isSome && !Particle.isTrue (l.attr? "abstract") &&
        ((heads? e e.depth l).getD []).any (·.path = head.path) && letsIn e head l).map
      fun l => ⟨e.target, l.attr "name"⟩

/-- The type of an element is derived from that of the head that it names, as the head allows. -/
def joinsGroup (e : Environment) (l : Located) : Bool :=
  match heads? e e.depth l with
  | none => false
  | some [] => true
  | some (head :: _) =>
    match elementType? e l, elementType? e head with
    | some type, some headType =>
      type.isDerivedFrom headType (excluded e head "final" "finalDefault")
    | _, _ => false

end ServiceDescription.Schema.Strict
