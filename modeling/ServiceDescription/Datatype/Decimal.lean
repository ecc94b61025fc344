/-! Decimal numbers: reading them, comparing them and counting their digits. -/
namespace ServiceDescription.Datatype

/-- A number that is `mantissa` divided by ten to the power of `scale`. -/
structure Decimal where
  mantissa : Int
  scale : Nat
  deriving DecidableEq, Repr

namespace Decimal

def ofInt (n : Int) : Decimal := ⟨n, 0⟩

/-- The number that some digits stand for. -/
def ofDigits (digits : List Char) : Nat :=
  digits.foldl (fun n d => 10 * n + (d.toNat - '0'.toNat)) 0

def lifted (d : Decimal) (scale : Nat) : Int := d.mantissa * (Nat.pow 10 (scale - d.scale) : Nat)

def compare (a b : Decimal) : Ordering :=
  Ord.compare (a.lifted (max a.scale b.scale)) (b.lifted (max a.scale b.scale))

/-- A sign in front of a number and what follows it. -/
def sign (s : List Char) : Bool × List Char :=
  match s with
  | '-' :: rest => (true, rest)
  | '+' :: rest => (false, rest)
  | _ => (false, s)

/-- Digits with a point among them, before or after them; at least one digit. -/
def read? (s : List Char) : Option Decimal :=
  let (negative, s) := sign s
  let whole := s.takeWhile Char.isDigit
  let fraction? :=
    match s.dropWhile Char.isDigit with
    | [] => some []
    | '.' :: rest => if rest.all Char.isDigit then some rest else none
    | _ => none
  match fraction? with
  | some fraction =>
    if whole.isEmpty && fraction.isEmpty then none
    else
      let n : Int := ofDigits (whole ++ fraction)
      some ⟨if negative then -n else n, fraction.length⟩
  | none => none

/-- Digits after an optional sign. -/
def readWhole? (s : List Char) : Option Int :=
  let (negative, digits) := sign s
  if digits.isEmpty || !digits.all Char.isDigit then none
  else if negative then some (-(ofDigits digits : Int)) else some (ofDigits digits)

/-- Removes the zeros after the point that say nothing. -/
def trimZeros : Nat → Int → Decimal
  | 0, n => ⟨n, 0⟩
  | scale + 1, n => if n % 10 = 0 then trimZeros scale (n / 10) else ⟨n, scale + 1⟩

/-- The digits after the point that count. -/
def fractionDigits (d : Decimal) : Nat := (trimZeros d.scale d.mantissa).scale

/-- The digits that count; zeros in front do not, and zero has one digit. -/
def totalDigits (d : Decimal) : Nat :=
  let t := trimZeros d.scale d.mantissa
  let whole := t.mantissa.natAbs / Nat.pow 10 t.scale
  max 1 (t.scale + if whole = 0 then 0 else (Nat.toDigits 10 whole).length)

end Decimal
end ServiceDescription.Datatype
