import ServiceDescription.Datatype.Literal
import ServiceDescription.Datatype.PatternText

/-! Facets: what a restriction asks of the values of a type. -/
namespace ServiceDescription.Datatype
open Xml

inductive FacetKind where
  | length | minLength | maxLength
  | pattern | enumeration | whiteSpace
  | maxInclusive | maxExclusive | minInclusive | minExclusive
  | totalDigits | fractionDigits
  deriving DecidableEq, Repr

namespace FacetKind

def table : List (String × FacetKind) :=
  [("length", length), ("minLength", minLength), ("maxLength", maxLength), ("pattern", pattern),
    ("enumeration", enumeration), ("whiteSpace", whiteSpace), ("maxInclusive", maxInclusive),
    ("maxExclusive", maxExclusive), ("minInclusive", minInclusive),
    ("minExclusive", minExclusive), ("totalDigits", totalDigits),
    ("fractionDigits", fractionDigits)]

def ofName? (written : String) : Option FacetKind := table.lookup written

def lengths : List FacetKind := [length, minLength, maxLength]

def bounds : List FacetKind := [maxInclusive, maxExclusive, minInclusive, minExclusive]

/-- The facets that a restriction of a built-in type of single values may have. -/
def allowed (t : BuiltIn) : List FacetKind :=
  match t.primitive with
  | .boolean => [pattern, whiteSpace]
  | .decimal => [pattern, enumeration, whiteSpace, totalDigits, fractionDigits] ++ bounds
  | .float | .double | .duration | .dateTime | .time | .date | .gYearMonth | .gYear | .gMonthDay
  | .gDay | .gMonth => [pattern, enumeration, whiteSpace] ++ bounds
  | _ => [pattern, enumeration, whiteSpace] ++ lengths

/-- The facets that a restriction of a list may have. -/
def allowedOfList : List FacetKind := [pattern, enumeration, whiteSpace] ++ lengths

/-- The facets that a restriction of a union may have. -/
def allowedOfUnion : List FacetKind := [pattern, enumeration]

end FacetKind

/-- A facet as it is written, and what is declared where it stands. -/
structure Facet where
  kind : FacetKind
  value : String
  isFixed : Bool
  scope : Scope
  deriving Repr

namespace Facet

/-- The number that a facet on lengths or digits gives; there has to be a digit in total. -/
def count? (f : Facet) : Option Nat :=
  match Decimal.readWhole? (ClassicName.trim f.value.toList) with
  | some n =>
    if n < 0 || (f.kind = .totalDigits && n = 0) then none else some n.toNat
  | none => none

def pattern? (f : Facet) : Option Pattern := Pattern.ofText? f.value

def whiteSpace? (f : Facet) : Option WhiteSpace := WhiteSpace.ofName? f.value

/-- Whether a length or a number of digits is what a facet asks for. -/
def admitsCount (f : Facet) (n : Nat) : Bool :=
  match f.count? with
  | none => false
  | some m =>
    match f.kind with
    | .length => n = m
    | .minLength => m ≤ n
    | .maxLength | .totalDigits | .fractionDigits => n ≤ m
    | _ => true

/-- Whether a value is on the right side of a bound. -/
def admitsBound (kind : FacetKind) (v bound : Value) : Bool :=
  match kind, v.compare? bound with
  | .maxInclusive, some o => o ≠ .gt
  | .maxExclusive, some o => o = .lt
  | .minInclusive, some o => o ≠ .lt
  | .minExclusive, some o => o = .gt
  | _, _ => false

end Facet
end ServiceDescription.Datatype
