import ServiceDescription.Datatype.Facet

/-! Simple types: the built-in ones, restrictions of others, lists and unions, with everything they
are made of; and the values that their literals stand for. -/
namespace ServiceDescription.Datatype
open Xml

/-- What distinguishes a type that is declared: the place of its declaration. -/
abbrev Place := List Nat

inductive ValueType where
  | builtIn (t : BuiltIn)
  | restriction (place : Place) (final : List String) (base : ValueType) (facets : List Facet)
  | list (place : Place) (final : List String) (item : ValueType)
  | union (place : Place) (final : List String) (members : List ValueType)
  deriving Repr

/-- What the values of a type are; the root of all types has no variety. -/
inductive Variety where
  | absent
  | atomic
  | list
  | union
  deriving DecidableEq, Repr

namespace ValueType

def root : ValueType := builtIn .anySimpleType

def variety : ValueType → Variety
  | builtIn t => if t.isAtomic then .atomic else if t.item?.isSome then .list else .absent
  | restriction _ _ base _ => base.variety
  | list _ _ _ => .list
  | union _ _ _ => .union

/-- The nearest built-in type that a type is derived from. -/
def ancestor : ValueType → BuiltIn
  | builtIn t => t
  | restriction _ _ base _ => base.ancestor
  | list _ _ _ => .anySimpleType
  | union _ _ _ => .anySimpleType

/-- The type of the items of a list. -/
def item? : ValueType → Option ValueType
  | builtIn t => t.item?.map builtIn
  | restriction _ _ base _ => base.item?
  | list _ _ item => some item
  | union _ _ _ => none

def final : ValueType → List String
  | builtIn _ => []
  | restriction _ final _ _ => final
  | list _ final _ => final
  | union _ final _ => final

mutual

/-- The members of a union, with the members of a union in their places. -/
def members : ValueType → List ValueType
  | builtIn _ => []
  | restriction _ _ base _ => base.members
  | list _ _ _ => []
  | union _ _ ts => membersOf ts

def membersOf : List ValueType → List ValueType
  | [] => []
  | t :: ts => (if t.variety = .union then t.members else [t]) ++ membersOf ts

end

/-- Types are the same if they are declared at the same place. -/
def isSame : ValueType → ValueType → Bool
  | builtIn s, builtIn t => s = t
  | restriction p _ _ _, restriction q _ _ _ => p = q
  | list p _ _, list q _ _ => p = q
  | union p _ _, union q _ _ => p = q
  | _, _ => false

/-- The facets that count, patterns and enumerations apart: a type's own, and those it inherits of
other kinds. -/
def facets : ValueType → List Facet
  | restriction _ _ base own =>
    own.filter counts ++ base.facets.filter fun f => !own.any (·.kind = f.kind)
  | _ => []
where
  counts (f : Facet) : Bool := f.kind ≠ .pattern && f.kind ≠ .enumeration

/-- The patterns of each step of derivation that has any. -/
def patterns : ValueType → List (List Facet)
  | restriction _ _ base own =>
    let patterns := own.filter (·.kind = .pattern)
    if patterns.isEmpty then base.patterns else patterns :: base.patterns
  | _ => []

/-- What white space counts for. Only where the root of the derivation is a text does a facet say
so. -/
def whiteSpace (t : ValueType) : WhiteSpace :=
  match t.variety with
  | .list => .collapse
  | .union => .preserve
  | _ =>
    (((t.facets.find? (·.kind = .whiteSpace)).bind Facet.whiteSpace?)).getD t.ancestor.whiteSpace

/-- The enumeration that counts, and what white space counts for in it. -/
def enumeration : ValueType → WhiteSpace × List Facet
  | restriction _ _ base own =>
    let listed := own.filter (·.kind = .enumeration)
    if listed.isEmpty then base.enumeration else (base.whiteSpace, listed)
  | _ => (.preserve, [])

/-- The number of digits that a facet is about. -/
def digits (kind : FacetKind) : Value → Nat
  | .number d => if kind = .totalDigits then d.totalDigits else d.fractionDigits
  | _ => 0

/-- Whether a value is what a facet asks for; `bound` is the value of the facet, if it is a bound. A
value without a length is as long as one likes. -/
def admits (f : Facet) (bound : Option Value) (v : Value) : Bool :=
  if FacetKind.bounds.contains f.kind then bound.any (Facet.admitsBound f.kind v)
  else if FacetKind.lengths.contains f.kind then v.length?.all f.admitsCount
  else f.kind = .whiteSpace || f.admitsCount (digits f.kind v)

/-- Every step of derivation that has patterns has one that the literal matches. -/
def matchesPatterns (t : ValueType) (s : List Char) : Bool :=
  t.patterns.all (·.any fun f => f.pattern?.any (·.accepts s))

mutual

/-- The value of a literal whose white space has been dealt with, whatever facets ask for. Of the
members of a union, the first that has the literal gives the value. -/
def readPlain? (around : Surroundings) : ValueType → List Char → Option Value
  | builtIn t, s => Literal.read? around t s
  | restriction _ _ base _, s => readPlain? around base s
  | list _ _ item, s => ((Literal.words s).mapM (read? around item)).map .list
  | union _ _ ts, s => readMember? around ts s

def readMember? (around : Surroundings) : List ValueType → List Char → Option Value
  | [], _ => none
  | t :: ts, s => (read? around t s).orElse fun _ => readMember? around ts s

/-- The value of a literal, if it is what the facets ask for. -/
def read? (around : Surroundings) : ValueType → List Char → Option Value
  | builtIn t, s => Literal.read? around t (t.whiteSpace.apply s)
  | restriction place final base own, s =>
    let t := restriction place final base own
    let s := t.whiteSpace.apply s
    let facetValue? (space : WhiteSpace) (f : Facet) :=
      readPlain? { around with scope := f.scope } base (space.apply f.value.toList)
    (readPlain? around base s).filter fun v =>
      let listed := t.enumeration
      t.facets.all (fun f => admits f (facetValue? .collapse f) v) &&
        (listed.2.isEmpty || listed.2.any fun f => (facetValue? listed.1 f).any v.same) &&
        t.matchesPatterns s
  | list _ _ item, s =>
    ((Literal.words (WhiteSpace.collapse.apply s)).mapM (read? around item)).map .list
  | union _ _ ts, s => readMember? around ts s

end

/-- The type and the types it is derived from. -/
def lineage : ValueType → List ValueType
  | builtIn t => t.ancestors.map builtIn
  | restriction place final base own => restriction place final base own :: base.lineage
  | list place final item => [list place final item, root]
  | union place final ts => [union place final ts, root]

mutual

/-- A type and, for a union, what may stand for it: its members. -/
def alternatives : ValueType → List ValueType
  | union place final ts => union place final ts :: alternativesOf ts
  | t => [t]

def alternativesOf : List ValueType → List ValueType
  | [] => []
  | t :: ts => alternatives t ++ alternativesOf ts

end

/-- Whether a type may stand for another: it is derived from it or from a member of it. -/
def isDerivedFrom (t base : ValueType) : Bool :=
  base.alternatives.any fun b => t.lineage.any (isSame b)

/-- Whether the values of a type identify elements. -/
def isIdentifier (t : ValueType) : Bool := t.ancestor = .identifier

end ValueType
end ServiceDescription.Datatype
