import ServiceDescription.Datatype.ValueType

/-! Which simple types may be declared. A restriction has facets that its base allows, that can be
read, and that agree with one another and with those of the base; lists and unions are made of
types that may be items and members. An upper bound of a length is compared with nothing. -/
namespace ServiceDescription.Datatype

/-- How the values of two facets have to compare. Values without an order are neither above nor
below one another. -/
inductive Comparison where
  | atMost
  | atLeast
  | below
  | above
  deriving DecidableEq, Repr

namespace Comparison

def holds : Comparison → Option Ordering → Bool
  | atMost, o => o ≠ some .gt
  | atLeast, o => o ≠ some .lt
  | below, o => o = some .lt
  | above, o => o = some .gt

end Comparison

namespace FacetKind

abbrev Rule := FacetKind × Comparison × FacetKind

/-- How the facets of one restriction compare. -/
def ownRules : List Rule :=
  [(minInclusive, .atMost, maxInclusive), (minExclusive, .atMost, maxExclusive),
    (minExclusive, .below, maxInclusive), (minInclusive, .below, maxExclusive)]

/-- How a facet compares with a facet of the base. -/
def baseRules : List Rule :=
  [(minLength, .atLeast, minLength), (length, .atLeast, length), (length, .atMost, length),
    (maxInclusive, .atMost, maxInclusive), (maxInclusive, .below, maxExclusive),
    (maxInclusive, .atLeast, minInclusive), (maxInclusive, .above, minExclusive),
    (maxExclusive, .atMost, maxExclusive), (maxExclusive, .atMost, maxInclusive),
    (maxExclusive, .above, minInclusive), (maxExclusive, .above, minExclusive),
    (minExclusive, .atLeast, minExclusive), (minExclusive, .atMost, maxInclusive),
    (minExclusive, .atLeast, minInclusive), (minExclusive, .below, maxExclusive),
    (minInclusive, .atLeast, minInclusive), (minInclusive, .atMost, maxInclusive),
    (minInclusive, .above, minExclusive), (minInclusive, .below, maxExclusive),
    (totalDigits, .atMost, totalDigits), (fractionDigits, .atMost, fractionDigits)]

/-- Facets that one restriction must not have together. -/
def rivals : List (FacetKind × FacetKind) :=
  [(length, minLength), (maxInclusive, maxExclusive), (minInclusive, minExclusive)]

end FacetKind

namespace ValueType

/-- The last facet of a kind. -/
def last? (fs : List Facet) (k : FacetKind) : Option Facet := (fs.filter (·.kind = k)).getLast?

/-- The value of a facet for a restriction of `base`: a number, or a literal of the base. -/
def facetValue? (around : Surroundings) (base : ValueType) (f : Facet) : Option Value :=
  if FacetKind.bounds.contains f.kind then
    base.readPlain? { around with scope := f.scope } (WhiteSpace.collapse.apply f.value.toList)
  else f.count?.map fun n => .number (Decimal.ofInt n)

/-- Whether two facets compare as they have to; one that is missing compares with any. -/
def agree (around : Surroundings) (base : ValueType) (f g : Option Facet) (c : Comparison) :
    Bool :=
  match f, g with
  | some f, some g =>
    match facetValue? around base f, facetValue? around base g with
    | some v, some w => c.holds (v.compare? w)
    | _, _ => true
  | _, _ => true

/-- A facet may be written as a value of the base. A list without items is no value. -/
def isReadable (around : Surroundings) (base : ValueType) (f : Facet) : Bool :=
  match f.kind with
  | .pattern => f.pattern?.isSome
  | .whiteSpace => f.whiteSpace?.isSome
  | .length | .minLength | .maxLength | .totalDigits | .fractionDigits => f.count?.isSome
  | _ =>
    match base.read? { around with scope := f.scope } f.value.toList with
    | some (.list []) => false
    | v => v.isSome

/-- White space does not come to count for more than in the base. -/
def spaceAgrees (base : ValueType) (own : List Facet) : Bool :=
  match own.find? (·.kind = .whiteSpace), base.facets.find? (·.kind = .whiteSpace) with
  | some f, some g =>
    match f.whiteSpace?, g.whiteSpace? with
    | some v, some w => w.strength ≤ v.strength && (!g.isFixed || v = w)
    | _, _ => true
  | _, _ => true

/-- A facet that the base fixes keeps its value. -/
def fixedAgree (around : Surroundings) (base : ValueType) (own : List Facet) : Bool :=
  (FacetKind.baseRules.filter fun r => r.1 = r.2.2).all fun r =>
    match last? base.facets r.1 with
    | some g =>
      !g.isFixed ||
        (agree around base (last? own r.1) (some g) .atMost &&
          agree around base (last? own r.1) (some g) .atLeast)
    | none => true

def facetsAgree (around : Surroundings) (base : ValueType) (own : List Facet) : Bool :=
  let mine := last? own
  let inherited := last? base.facets
  let nearest k := (mine k).or (inherited k)
  FacetKind.rivals.all (fun r => (mine r.1).isNone || (mine r.2).isNone) &&
    FacetKind.ownRules.all (fun r => agree around base (mine r.1) (mine r.2.2) r.2.1) &&
    FacetKind.baseRules.all (fun r => agree around base (mine r.1) (inherited r.2.2) r.2.1) &&
    agree around base (mine .length) (nearest .minLength) .atLeast &&
    agree around base (nearest .fractionDigits) (nearest .totalDigits) .atMost &&
    spaceAgrees base own && fixedAgree around base own

/-- The facets that a restriction may have. -/
def allowedFacets (base : ValueType) : List FacetKind :=
  match base.variety with
  | .list => FacetKind.allowedOfList
  | .union => FacetKind.allowedOfUnion
  | _ => FacetKind.allowed base.ancestor

/-- Items are single values. -/
def mayBeItem (t : ValueType) : Bool :=
  t.variety = .atomic || (t.variety = .union && t.members.all (·.variety = .atomic))

/-- Whether a type may be declared, given that what it is made of may be. -/
def isSound (around : Surroundings) : ValueType → Bool
  | builtIn _ => true
  | restriction _ _ base own =>
    base.variety ≠ .absent && !base.final.contains "restriction" &&
      own.all (fun f => (allowedFacets base).contains f.kind && isReadable around base f) &&
      facetsAgree around base own
  | list _ _ item => item.mayBeItem && !item.final.contains "list"
  | union _ _ ts =>
    (membersOf ts).all fun t =>
      (t.variety = .atomic || t.variety = .list) && !t.final.contains "union"

end ValueType
end ServiceDescription.Datatype
