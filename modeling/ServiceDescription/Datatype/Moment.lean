import ServiceDescription.Datatype.BuiltIn
import ServiceDescription.Datatype.Decimal

/-! Points of time and spans of time: reading them and comparing them. A point without a zone may be
up to fourteen hours off, so that it cannot always be compared with one that has a zone, and a month
may have from 28 to 31 days. -/
namespace ServiceDescription.Datatype

/-- A point of time as seconds from a fixed point, and whether its zone is known. -/
structure Moment where
  seconds : Decimal
  isZoned : Bool
  deriving DecidableEq, Repr

namespace Moment

/-- The number that two digits at the front stand for, if it is in a range. -/
def pair? (least most : Nat) : List Char → Option (Nat × List Char)
  | a :: b :: rest =>
    let n := Decimal.ofDigits [a, b]
    if a.isDigit && b.isDigit && least ≤ n && n ≤ most then some (n, rest) else none
  | _ => none

def skip? (c : Char) : List Char → Option (List Char)
  | d :: rest => if d = c then some rest else none
  | [] => none

/-- A year has four digits or more, no zero in front of more than four, and there is no year
zero. -/
def year? (s : List Char) : Option (Int × List Char) :=
  let (negative, s) :=
    match s with
    | '-' :: rest => (true, rest)
    | _ => (false, s)
  let digits := s.takeWhile Char.isDigit
  let n : Int := Decimal.ofDigits digits
  if digits.length < 4 || (4 < digits.length && digits.head? = some '0') || n = 0 then none
  else some (if negative then -n else n, s.drop digits.length)

def isLeap (year : Int) : Bool := year % 4 = 0 && (year % 100 ≠ 0 || year % 400 = 0)

def daysIn (year : Int) (month : Nat) : Nat :=
  if month = 2 then if isLeap year then 29 else 28
  else if [4, 6, 9, 11].contains month then 30
  else 31

/-- The days from a fixed day to the first day of a month. The year before the first is the year
minus one. -/
def daysBefore (year : Int) (month : Nat) : Int :=
  let y := if year < 0 then year else year - 1
  let months := (List.range (month - 1)).foldl (fun n m => n + daysIn year (m + 1)) 0
  365 * y + y / 4 - y / 100 + y / 400 + (months : Nat)

def secondsPerDay : Int := 86400

/-- Adds whole seconds. -/
def shift (d : Decimal) (seconds : Int) : Decimal :=
  ⟨d.mantissa + (⟨seconds, 0⟩ : Decimal).lifted d.scale, d.scale⟩

/-- Hours, minutes and seconds as seconds of the day. The end of a day is hour 24. -/
def timeOfDay? (s : List Char) : Option (Decimal × List Char) := do
  let (hour, s) ← pair? 0 24 s
  let (minute, s) ← pair? 0 59 (← skip? ':' s)
  let (second, s) ← pair? 0 59 (← skip? ':' s)
  let (digits, s) ←
    match s with
    | '.' :: rest =>
      let digits := rest.takeWhile Char.isDigit
      if digits.isEmpty then none else some (digits, rest.drop digits.length)
    | _ => some ([], s)
  let fraction : Decimal := ⟨Decimal.ofDigits digits, digits.length⟩
  if hour = 24 && (minute ≠ 0 || second ≠ 0 || fraction.mantissa ≠ 0) then none
  else some (shift fraction (3600 * hour + 60 * minute + second), s)

/-- The minutes by which a zone is ahead, at most fourteen hours; no text is no zone. -/
def zone? (s : List Char) : Option (Option Int) :=
  let offset? (rest : List Char) : Option Int := do
    let (hour, rest) ← pair? 0 23 rest
    let (minute, rest) ← pair? 0 59 (← skip? ':' rest)
    if rest.isEmpty && 60 * hour + minute ≤ 840 then some (60 * hour + minute : Nat) else none
  match s with
  | [] => some none
  | ['Z'] => some (some 0)
  | '+' :: rest => (offset? rest).map some
  | '-' :: rest => (offset? rest).map fun n => some (-n)
  | _ => none

/-- A point of time from its parts. -/
def ofParts? (year : Int) (month day : Nat) (time : Decimal) (rest : List Char) :
    Option Moment := do
  let zone ← zone? rest
  let days := daysBefore year month + day
  return ⟨shift time (secondsPerDay * days - 60 * zone.getD 0), zone.isSome⟩

def month? : List Char → Option (Nat × List Char) := pair? 1 12
def day? : List Char → Option (Nat × List Char) := pair? 1 31

/-- The year of a point of time that is written without one. -/
def someYear : Int := 2000

def midnight : Decimal := ⟨0, 0⟩

def read? (t : BuiltIn) (s : List Char) : Option Moment :=
  match t with
  | .gYear => do
    let (year, s) ← year? s
    ofParts? year 1 1 midnight s
  | .gYearMonth => do
    let (year, s) ← year? s
    let (month, s) ← month? (← skip? '-' s)
    ofParts? year month 1 midnight s
  | .date => do
    let (year, month, day, s) ← date? s
    ofParts? year month day midnight s
  | .dateTime => do
    let (year, month, day, s) ← date? s
    let (time, s) ← timeOfDay? (← skip? 'T' s)
    ofParts? year month day time s
  | .time => do
    let (time, s) ← timeOfDay? s
    ofParts? someYear 1 1 time s
  | .gMonth => do
    let (month, s) ← month? (← skip? '-' (← skip? '-' s))
    ofParts? someYear month 1 midnight s
  | .gMonthDay => do
    let (month, s) ← month? (← skip? '-' (← skip? '-' s))
    let (day, s) ← day? (← skip? '-' s)
    if day ≤ daysIn someYear month then ofParts? someYear month day midnight s else none
  | .gDay => do
    let (day, s) ← day? (← skip? '-' (← skip? '-' (← skip? '-' s)))
    ofParts? someYear 1 day midnight s
  | _ => none
where
  date? (s : List Char) : Option (Int × Nat × Nat × List Char) := do
    let (year, s) ← year? s
    let (month, s) ← month? (← skip? '-' s)
    let (day, s) ← day? (← skip? '-' s)
    if day ≤ daysIn year month then some (year, month, day, s) else none

/-- The seconds that a point without a zone may be off. -/
def uncertainty : Int := 14 * 3600

def compare? (a b : Moment) : Option Ordering :=
  if a.isZoned = b.isZoned then some (a.seconds.compare b.seconds)
  else if (shift a.seconds uncertainty).compare b.seconds = .lt then some .lt
  else if (shift b.seconds uncertainty).compare a.seconds = .lt then some .gt
  else none

end Moment

/-- A span of time. -/
structure Duration where
  months : Int
  seconds : Decimal
  deriving DecidableEq, Repr

namespace Duration

/-- A number in front of a designator: its digits and those after a point. -/
def number? (s : List Char) : Option (Decimal × List Char) :=
  let whole := s.takeWhile Char.isDigit
  if whole.isEmpty then none
  else
    match s.drop whole.length with
    | '.' :: rest =>
      let fraction := rest.takeWhile Char.isDigit
      some (⟨Decimal.ofDigits (whole ++ fraction), fraction.length⟩, rest.drop fraction.length)
    | rest => some (⟨Decimal.ofDigits whole, 0⟩, rest)

/-- The items that may follow, in order: the designator, the months and the seconds of one. -/
def dayItems : List (Char × Int × Int) := [('Y', 12, 0), ('M', 1, 0), ('D', 0, 86400)]
def timeItems : List (Char × Int × Int) := [('H', 0, 3600), ('M', 0, 60), ('S', 0, 1)]

/-- Adds the items that a text has. Only seconds may have a fraction, and of every kind there is at
most one item. -/
def items? : List (Char × Int × Int) → List Char → Duration → Option (Duration × List Char)
  | [], s, d => some (d, s)
  | (designator, months, seconds) :: more, s, d =>
    match number? s with
    | some (n, c :: rest) =>
      if c ≠ designator then items? more s d
      else if n.scale ≠ 0 && designator ≠ 'S' then none
      else
        let sum : Decimal := ⟨n.mantissa * seconds + d.seconds.lifted n.scale, n.scale⟩
        items? more rest ⟨d.months + months * n.mantissa, sum⟩
    | _ => some (d, s)

def read? (s : List Char) : Option Duration := do
  let (negative, s) :=
    match s with
    | '-' :: rest => (true, rest)
    | _ => (false, s)
  let s ← (Moment.skip? 'P' s).filter (!·.isEmpty)
  let (d, s) ← items? dayItems s ⟨0, ⟨0, 0⟩⟩
  let (d, s) ←
    match s with
    | 'T' :: time => if time.isEmpty then none else items? timeItems time d
    | _ => some (d, s)
  if !s.isEmpty then none
  else if negative then some ⟨-d.months, ⟨-d.seconds.mantissa, d.seconds.scale⟩⟩
  else some d

/-- The fewest and the most days that some months may have, for a number that is not negative. -/
def days (months : Nat) : Int × Int :=
  let years := months / 12
  let rest := months % 12
  let least := [0, 28, 59, 89, 120, 150, 181, 212, 242, 273, 303, 334]
  let most := [0, 31, 62, 92, 123, 153, 184, 215, 245, 276, 306, 337]
  let whole := 1461 * (years / 4) + 365 * (years % 4)
  let leap := if years % 4 = 0 then 0 else 1
  ((whole + least.getD rest 0 : Nat), (whole + leap + most.getD rest 0 : Nat))

/-- Spans can be compared if the result does not depend on the months they are made of. -/
def compare? (a b : Duration) : Option Ordering :=
  let months := a.months - b.months
  let (least, most) := days months.natAbs
  let seconds (days : Int) : Decimal :=
    Moment.shift a.seconds (Moment.secondsPerDay * if months < 0 then -days else days)
  let low := (seconds least).compare b.seconds
  if low = (seconds most).compare b.seconds then some low else none

end Duration
end ServiceDescription.Datatype
