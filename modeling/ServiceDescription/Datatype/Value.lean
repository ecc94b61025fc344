import ServiceDescription.Datatype.Moment

/-! Values of simple types: when two are the same and which of two is less. -/
namespace ServiceDescription.Datatype

inductive Value where
  | text (s : String)
  | truth (b : Bool)
  | number (d : Decimal)
  | real (x : Float)
  | moment (m : Moment)
  | duration (d : Duration)
  /-- Octets as they are written, without what may be left out, and their number. -/
  | octets (digits : List Char) (size : Nat)
  /-- A qualified name, with its namespace if it has one. -/
  | name (space : Option String) (localName : String)
  | list (items : List Value)
  deriving Repr

namespace Value

/-- What is no number is above all numbers and equal to itself. -/
def compareReals (x y : Float) : Ordering :=
  if x.isNaN then if y.isNaN then .eq else .gt
  else if y.isNaN then .lt
  else if x < y then .lt
  else if x == y then .eq
  else .gt

/-- The order of two values, as far as there is one. -/
def compare? : Value → Value → Option Ordering
  | number a, number b => some (a.compare b)
  | real x, real y => some (compareReals x y)
  | moment a, moment b => a.compare? b
  | duration a, duration b => a.compare? b
  | text a, text b => if a = b then some .eq else none
  | truth a, truth b => if a = b then some .eq else none
  | octets a _, octets b _ => if a = b then some .eq else none
  | name a m, name b n => if a = b && m = n then some .eq else none
  | _, _ => none

mutual

def same : Value → Value → Bool
  | list a, list b => sameAll a b
  | a, b => a.compare? b = some .eq

def sameAll : List Value → List Value → Bool
  | [], [] => true
  | a :: as, b :: bs => same a b && sameAll as bs
  | _, _ => false

end

/-- The length of a value: its items, octets or characters. A qualified name has none. -/
def length? : Value → Option Nat
  | list items => some items.length
  | octets _ size => some size
  | text s => some s.length
  | _ => none

/-- The nearest value of a type of numbers, from digits and the power of ten they are multiplied
with. Beyond these powers every number is zero or infinite. -/
def realOf (isDouble negative : Bool) (digits : List Char) (power : Int) : Value :=
  let n := Decimal.ofDigits digits
  let size := power + digits.length
  let x : Float :=
    if n = 0 || size < -400 then 0.0
    else if 400 < size then 1.0 / 0.0
    else if power < 0 then Float.ofScientific n true power.natAbs
    else Float.ofScientific n false power.natAbs
  let x := if isDouble then x else x.toFloat32.toFloat
  real (if negative then -x else x)

end Value
end ServiceDescription.Datatype
