import ServiceDescription.Schema.Strict.Declared
import ServiceDescription.Schema.Strict.Wildcard

/-! The attributes of a type: those that it lists, those of the groups it refers to, and those that
a wildcard lets in. -/
namespace ServiceDescription.Schema.Strict
open Xml Datatype

structure AttributeUse where
  name : Reference
  isRequired : Bool
  fixed : Option String
  type : ValueType
  deriving Repr

structure Attributes where
  uses : List AttributeUse
  /-- Attributes of the base that are not taken over. -/
  prohibited : List Reference
  wildcard : Option Wildcard
  deriving Repr

namespace AttributeUse

/-- The name of a local attribute: it is qualified if it or the schema says so. -/
def localName (e : Environment) (l : Located) : Reference :=
  let form := (l.attr? "form").getD (e.root.attr "attributeFormDefault")
  ⟨if form = "qualified" then e.target else none, l.attr "name"⟩

/-- The declaration that an attribute is a use of: itself, or the global one it refers to. -/
def declaration? (e : Environment) (l : Located) : Option (Reference × Located) :=
  if (l.attr? "ref").isSome then
    (e.declaredNamed? "attribute" l "ref").map fun d => (⟨e.target, d.attr "name"⟩, d)
  else some (localName e l, l)

def of? (e : Environment) (l : Located) : Option AttributeUse := do
  let (name, d) ← declaration? e l
  let type ← attributeType? e d
  let fixed := if (fallback? l).isSome then l.attr? "fixed" else d.attr? "fixed"
  return ⟨name, l.attr? "use" = some "required", fixed, type⟩

def isProhibited (l : Located) : Bool := l.attr? "use" = some "prohibited"

/-- No name comes twice, and at most one attribute is an identifier. -/
def areDistinct (uses : List AttributeUse) : Bool :=
  decide (uses.map (·.name)).Nodup && ((uses.filter (·.type.isIdentifier)).length ≤ 1)

end AttributeUse

namespace Attributes

/-- Both wildcards at once; none lets in what the other does. -/
def meet? : Option Wildcard → Option Wildcard → Option (Option Wildcard)
  | none, w => some w
  | w, none => some w
  | some v, some w => (v.spaces.inter? w.spaces).map fun s => some { v with spaces := s }

/-- The attributes that stand in an element, with those of groups at most `n` steps away. -/
def of? (e : Environment) : Nat → Located → Option Attributes
  | 0, _ => none
  | n + 1, l => do
    let listed := parts l "attribute"
    let uses ← (listed.filter (!AttributeUse.isProhibited ·)).mapM (AttributeUse.of? e)
    let groups ← (parts l "attributeGroup").mapM fun g => do
      of? e n (← e.declaredNamed? "attributeGroup" g "ref")
    let own := (part? l "anyAttribute").map (Wildcard.of e)
    let wildcard ← groups.foldlM (fun w g => meet? w g.wildcard) own
    let prohibited := (listed.filter AttributeUse.isProhibited).filterMap fun l =>
      (AttributeUse.declaration? e l).map (·.1)
    return ⟨uses ++ groups.flatMap (·.uses), prohibited, wildcard⟩

/-- Both wildcards together, as far as that can be said. -/
def join? : Option Wildcard → Option Wildcard → Option (Option Wildcard)
  | none, w => some w
  | w, none => some w
  | some v, some w => (v.spaces.union? w.spaces).map fun s => some { v with spaces := s }

/-- The attributes of a type that adds its own to those of its base. -/
def extend? (base own : Attributes) : Option Attributes := do
  return ⟨own.uses ++ base.uses, [], ← join? own.wildcard base.wildcard⟩

/-- The attributes of a type that takes over those of its base which it does not give anew or
prohibit. -/
def restrict (base own : Attributes) : Attributes :=
  let given := own.uses.map (·.name) ++ own.prohibited
  ⟨own.uses ++ base.uses.filter (fun u => !given.contains u.name), [], own.wildcard⟩

/-- Whether an attribute may be given anew: it stays required and fixed, and its type is derived. A
name that the base does not have has to be let in by its wildcard. -/
def mayGive (base : Attributes) (u : AttributeUse) : Bool :=
  match base.uses.find? (·.name = u.name) with
  | some b =>
    (!b.isRequired || u.isRequired) && u.type.isDerivedFrom b.type &&
      (b.fixed.isNone || u.fixed = b.fixed)
  | none => base.wildcard.any (·.spaces.contains u.name.space)

/-- Whether attributes may restrict those of a base. What the ur-type lets in is looked at less
closely than anything else. -/
def mayRestrict (base own : Attributes) (isUrType : Bool) : Bool :=
  own.uses.all (mayGive base) &&
    base.uses.all (fun b => !b.isRequired || own.uses.any (·.name = b.name)) &&
    own.wildcard.all fun w =>
      base.wildcard.any fun b =>
        w.spaces.isWithin b.spaces && (isUrType || b.process.strength ≤ w.process.strength)

end Attributes
end ServiceDescription.Schema.Strict
