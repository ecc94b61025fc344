import ServiceDescription.Rendering.Json

/-! Reading JSON text, one character at a time. Arrays and objects that are still open wait on a
stack. A key that an object repeats keeps its first place and gets its last value. Numbers are
integers, of no more digits than integers may have in other texts; a number with a fraction or an
exponent is not read, and neither is half of a surrogate pair. -/
namespace ServiceDescription.Json

/-- An array with the items before the one that is being read, or an object with the fields before
and the key of the one that is being read. -/
inductive Frame where
  | array (items : List Json)
  | object (fields : List (String × Json)) (key : String)
  deriving Repr

/-- What a text in quotes is: a value, or a key after some fields. -/
inductive Purpose where
  | value
  | key (fields : List (String × Json))
  deriving Repr

/-- Where reading stands in an escape. A high surrogate waits for the low one that has to follow. -/
inductive Escape where
  | plain
  | begun
  | unit (high : Option Nat) (digits : List Nat)
  | pair (high : Nat)
  | pairBegun (high : Nat)
  deriving Repr

/-- What may come next. -/
inductive Place where
  | value
  | firstItem
  | firstKey
  | key (fields : List (String × Json))
  | colon (fields : List (String × Json)) (key : String)
  | after (j : Json)
  | word (rest : List Char) (j : Json)
  | number (isNegative : Bool) (digits : List Nat)
  | text (purpose : Purpose) (before : List Char) (escape : Escape)
  deriving Repr

structure State where
  place : Place
  stack : List Frame
  deriving Repr

def digit? (c : Char) : Option Nat := if c.isDigit then some (c.toNat - 0x30) else none

def hexDigit? (c : Char) : Option Nat :=
  if c.isDigit then some (c.toNat - 0x30)
  else if 'a' ≤ c && c ≤ 'f' then some (c.toNat - 0x57)
  else if 'A' ≤ c && c ≤ 'F' then some (c.toNat - 0x37)
  else none

/-- The fields of an object with one more value under a key. -/
def put (key : String) (value : Json) : List (String × Json) → List (String × Json)
  | [] => [(key, value)]
  | field :: fields =>
    if field.1 = key then (key, value) :: fields else field :: put key value fields

namespace State

def startValue (stack : List Frame) : Char → Option State
  | '"' => some ⟨.text .value [] .plain, stack⟩
  | '[' => some ⟨.firstItem, stack⟩
  | '\x7b' => some ⟨.firstKey, stack⟩
  | 'n' => some ⟨.word ['u', 'l', 'l'] null, stack⟩
  | 't' => some ⟨.word ['r', 'u', 'e'] (bool true), stack⟩
  | 'f' => some ⟨.word ['a', 'l', 's', 'e'] (bool false), stack⟩
  | '-' => some ⟨.number true [], stack⟩
  | c => (digit? c).map fun d => ⟨.number false [d], stack⟩

/-- A value is complete; what is open around it goes on or ends. -/
def afterValue (j : Json) : List Frame → Char → Option State
  | .array items :: stack, ',' => some ⟨.value, .array (items ++ [j]) :: stack⟩
  | .array items :: stack, ']' => some ⟨.after (array (items ++ [j])), stack⟩
  | .object fields key :: stack, ',' => some ⟨.key (put key j fields), stack⟩
  | .object fields key :: stack, '\x7d' => some ⟨.after (object (put key j fields)), stack⟩
  | stack, c => if isBlank c then some ⟨.after j, stack⟩ else none

/-- The number that has been read when no digit follows. -/
def number? (isNegative : Bool) (digits : List Nat) : Option Json :=
  if digits.isEmpty || Text.maxDigits < digits.length then none
  else if isNegative then some (number (-(Text.ofDigits digits : Int)))
  else some (number (Text.ofDigits digits))

def ofUnit (digits : List Nat) : Nat := digits.foldl (fun n d => 16 * n + d) 0

/-- Four digits of a unit have been read. -/
def afterUnit (high : Option Nat) (unit : Nat) (before : List Char) :
    Option (List Char × Escape) :=
  match high with
  | none =>
    if 0xD800 ≤ unit && unit < 0xDC00 then some (before, .pair unit)
    else if 0xDC00 ≤ unit && unit < 0xE000 then none
    else some (before ++ [Char.ofNat unit], .plain)
  | some high =>
    if 0xDC00 ≤ unit && unit < 0xE000 then
      some (before ++ [Char.ofNat (0x10000 + (high - 0xD800) * 0x400 + (unit - 0xDC00))], .plain)
    else none

/-- The character that an escape of one letter stands for. -/
def escaped? : Char → Option Char
  | '"' => some '"'
  | '\\' => some '\\'
  | '/' => some '/'
  | 'b' => some '\x08'
  | 'f' => some '\x0c'
  | 'n' => some '\n'
  | 'r' => some '\r'
  | 't' => some '\t'
  | _ => none

/-- One more character within quotes that does not end the text. -/
def stepText (before : List Char) : Escape → Char → Option (List Char × Escape)
  | .plain, c =>
    if c = '\\' then some (before, .begun)
    else if c.toNat < 0x20 then none
    else some (before ++ [c], .plain)
  | .begun, c =>
    if c = 'u' then some (before, .unit none [])
    else (escaped? c).map fun e => (before ++ [e], .plain)
  | .unit high digits, c => do
    let d ← hexDigit? c
    if digits.length < 3 then some (before, .unit high (digits ++ [d]))
    else afterUnit high (ofUnit (digits ++ [d])) before
  | .pair high, c => if c = '\\' then some (before, .pairBegun high) else none
  | .pairBegun high, c => if c = 'u' then some (before, .unit (some high) []) else none

def endText (before : List Char) : Purpose → Place
  | .value => .after (text (String.ofList before))
  | .key fields => .colon fields (String.ofList before)

def step (s : State) (c : Char) : Option State :=
  match s.place with
  | .value => if isBlank c then some s else startValue s.stack c
  | .firstItem =>
    if isBlank c then some s
    else if c = ']' then some ⟨.after (array []), s.stack⟩
    else startValue (.array [] :: s.stack) c
  | .firstKey =>
    if isBlank c then some s
    else if c = '\x7d' then some ⟨.after (object []), s.stack⟩
    else if c = '"' then some ⟨.text (.key []) [] .plain, s.stack⟩
    else none
  | .key fields =>
    if isBlank c then some s
    else if c = '"' then some ⟨.text (.key fields) [] .plain, s.stack⟩
    else none
  | .colon fields key =>
    if isBlank c then some s
    else if c = ':' then some ⟨.value, .object fields key :: s.stack⟩
    else none
  | .after j => afterValue j s.stack c
  | .word [] _ => none
  | .word (expected :: rest) j =>
    if c ≠ expected then none
    else if rest.isEmpty then some ⟨.after j, s.stack⟩
    else some ⟨.word rest j, s.stack⟩
  | .number isNegative digits =>
    match digit? c with
    | some d => if digits = [0] then none else some ⟨.number isNegative (digits ++ [d]), s.stack⟩
    | none => do
      let j ← number? isNegative digits
      afterValue j s.stack c
  | .text purpose before .plain =>
    if c = '"' then some ⟨endText before purpose, s.stack⟩
    else (stepText before .plain c).map fun t => ⟨.text purpose t.1 t.2, s.stack⟩
  | .text purpose before escape =>
    (stepText before escape c).map fun t => ⟨.text purpose t.1 t.2, s.stack⟩

/-- The value that has been read when the text ends. -/
def finish? : State → Option Json
  | ⟨.after j, []⟩ => some j
  | ⟨.number isNegative digits, []⟩ => number? isNegative digits
  | _ => none

end State

/-- The value that a text is, if it is one. -/
def parse? (s : String) : Option Json := do
  let last ← s.toList.foldlM State.step ⟨.value, []⟩
  last.finish?

end ServiceDescription.Json
