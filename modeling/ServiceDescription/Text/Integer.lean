import ServiceDescription.Text.DecimalDigit

/-! Integers as text. Reading takes digits of any script with single underscores between them and
an optional sign; writing uses the ten ASCII digits. Texts of more than `maxDigits` digits are
refused. -/
namespace ServiceDescription.Text

/-- The most digits a written integer may have, leading zeros included. -/
def maxDigits : Nat := 4300

/-- The digits of a non-empty run of digits in which single underscores may stand between two. -/
def digitRun? : List Char → Option (List Nat)
  | [] => none
  | [c] => (digitValue? c).map ([·])
  | c :: '_' :: rest => do
    let d ← digitValue? c
    let ds ← digitRun? rest
    return d :: ds
  | c :: rest => do
    let d ← digitValue? c
    let ds ← digitRun? rest
    return d :: ds

def ofDigits (ds : List Nat) : Nat := ds.foldl (fun n d => 10 * n + d) 0

def natural? (s : List Char) : Option Nat := do
  let ds ← digitRun? s
  if ds.length ≤ maxDigits then some (ofDigits ds) else none

/-- One sign may stand before the digits, with nothing between. -/
def integer? : List Char → Option Int
  | '-' :: rest => (natural? rest).map fun n => -(n : Int)
  | '+' :: rest => (natural? rest).map Int.ofNat
  | s => (natural? s).map Int.ofNat

def decimalChars : Int → List Char
  | .ofNat n => Nat.toDigits 10 n
  | .negSucc n => '-' :: Nat.toDigits 10 (n + 1)

def decimal (i : Int) : String := String.ofList (decimalChars i)

end ServiceDescription.Text
