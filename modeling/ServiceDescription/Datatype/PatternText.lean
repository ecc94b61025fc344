import ServiceDescription.Datatype.Decimal
import ServiceDescription.Datatype.Pattern

/-! How patterns are written. Each reader takes what it reads from the front of a text and returns
the rest. A brace or an anchor of other notations is an ordinary character where a character may
stand. -/
namespace ServiceDescription.Datatype.Pattern

/-- The character that a letter or a sign stands for after a backslash. -/
def escaped? : Char → Option Nat
  | 'n' => some 0xA
  | 'r' => some 0xD
  | 't' => some 0x9
  | c => if "\\|.?*+()\x7b\x7d-[]^".toList.contains c then some c.toNat else none

def hexValue? (c : Char) : Option Nat :=
  if c.isDigit then some (c.toNat - '0'.toNat)
  else if 'a' ≤ c && c ≤ 'f' then some (c.toNat - 'a'.toNat + 10)
  else if 'A' ≤ c && c ≤ 'F' then some (c.toNat - 'A'.toNat + 10)
  else none

/-- A number of four digits to the base sixteen. -/
def codeUnit? : List Char → Option (Nat × List Char)
  | a :: b :: c :: d :: rest => do
    let digits ← [a, b, c, d].mapM hexValue?
    return (digits.foldl (16 * · + ·) 0, rest)
  | _ => none

/-- A character by its number. The first half of a pair is followed by the second. -/
def codePoint? (s : List Char) : Option (Nat × List Char) := do
  let (high, rest) ← codeUnit? s
  if 0xD800 ≤ high && high ≤ 0xDBFF then
    match rest with
    | '\\' :: 'u' :: rest => do
      let (low, rest) ← codeUnit? rest
      if 0xDC00 ≤ low && low ≤ 0xDFFF then
        some (0x10000 + 0x400 * (high - 0xD800) + (low - 0xDC00), rest)
      else none
    | _ => none
  else some (high, rest)

/-- The letters that may follow the first letter of a category. -/
def subcategories : List (Char × List Char) :=
  [('L', ['u', 'l', 't', 'm', 'o']), ('M', ['n', 'c', 'e']), ('N', ['d', 'l', 'o']),
    ('P', ['c', 'd', 's', 'e', 'i', 'f', 'o']), ('Z', ['s', 'l', 'p']),
    ('S', ['m', 'c', 'k', 'o']), ('C', ['c', 'f', 'o', 'n'])]

/-- A property in braces, the first of which is read. -/
def property? (s : List Char) : Option (CharacterSet × List Char) :=
  match s with
  | 'I' :: 's' :: rest =>
    let name := rest.takeWhile fun c => c.isAlphanum || c = '-'
    (closed? (rest.drop name.length)).map (.block (String.ofList name), ·)
  | c :: rest =>
    match subcategories.lookup c, rest with
    | some minors, d :: after =>
      if minors.contains d then (closed? after).map (.category (String.ofList [c, d]), ·)
      else (closed? rest).map (.category (String.singleton c), ·)
    | _, _ => none
  | [] => none
where
  closed? : List Char → Option (List Char)
    | '\x7d' :: rest => some rest
    | _ => none

/-- What follows a backslash: a set of characters, and whether all others are meant. -/
def escape? : List Char → Option (CharacterSet × Bool × List Char)
  | 'p' :: '\x7b' :: rest => (property? rest).map fun (set, rest) => (set, false, rest)
  | 'P' :: '\x7b' :: rest => (property? rest).map fun (set, rest) => (set, true, rest)
  | 'u' :: rest => (codePoint? rest).map fun (code, rest) => (.single code, false, rest)
  | c :: rest =>
    match escaped? c, CharacterClass.ofLetter? c.toLower with
    | some code, _ => some (.single code, false, rest)
    | none, some k => some (.kind k c.isUpper, false, rest)
    | none, none => none
  | [] => none

/-- The end of a range: a character, or an escaped one. -/
def rangeEnd? : List Char → Option (Nat × List Char)
  | '\\' :: 'u' :: rest => codePoint? rest
  | '\\' :: c :: rest => (escaped? c).map (·, rest)
  | c :: rest => if c = '\\' || c = '[' || c = ']' then none else some (c.toNat, rest)
  | [] => none

/-- One item of a group: an escape, a character or a range. `before` is the character in front of
the item. A hyphen that is neither first nor last says nothing, and an escape begins no range. -/
def item? (before : Char) : List Char → Option (Option CharacterSet × List Char)
  | '\\' :: rest => (escape? rest).map fun (set, _, rest) => (some set, rest)
  | c :: rest =>
    if c = '[' || c = ']' then none
    else if c = '-' && rest.head? ≠ some ']' && before ≠ '[' && before ≠ '^' then some (none, rest)
    else
      match rest with
      | '-' :: after =>
        if after.head? = some '[' || after.head? = some ']' then
          some (some (.single c.toNat), rest)
        else
          match rangeEnd? after with
          | some (last, rest) =>
            if last < c.toNat then none else some (some (.range c.toNat last), rest)
          | none => none
      | _ => some (some (.single c.toNat), rest)
  | [] => none

/-- The last character of what was read of a text. -/
def lastRead (before : Char) (s rest : List Char) : Char :=
  ((s.take (s.length - rest.length)).getLast?).getD before

/-- Items up to a bracket, a hyphen or the end; at least one. -/
def items? (role : Role) : Nat → Char → List Char → Option (CharacterGroup × Char × List Char)
  | 0, _, _ => none
  | n + 1, before, s => do
    let (set, rest) ← item? before s
    let g : CharacterGroup := (set.map (role, ·)).toList
    let before := lastRead before s rest
    match rest with
    | [] => some (g, before, [])
    | c :: _ =>
      if c = ']' || c = '-' then some (g, before, rest)
      else do
        let (more, before, rest) ← items? role n before rest
        return (g ++ more, before, rest)

mutual

/-- A group up to its closing bracket, which is read. Items after the sign of negation are negated
up to the next hyphen that begins no range. -/
def group? : Nat → Role → Char → List Char → Option (CharacterGroup × List Char)
  | 0, _, _, _ => none
  | n + 1, role, before, s =>
    match s with
    | '^' :: rest => do
      let (g, before, rest) ← items? role.negated (n + 1) '^' rest
      let (more, rest) ← groupRest? n role before rest
      return (g ++ more, rest)
    | _ => groupRest? n role before s

def groupRest? : Nat → Role → Char → List Char → Option (CharacterGroup × List Char)
  | 0, _, _, _ => none
  | _ + 1, _, _, [] => none
  | _ + 1, _, _, ']' :: rest => some ([], rest)
  | n + 1, _, _, '-' :: '[' :: rest => do
    let (g, rest) ← group? n .excluded '[' rest
    match rest with
    | ']' :: rest => return (g, rest)
    | _ => none
  | n + 1, role, before, s => do
    let (g, before, rest) ← items? role (n + 1) before s
    let (more, rest) ← groupRest? n role before rest
    return (g ++ more, rest)

end

def largestCount : Nat := 2147483647

def count? (s : List Char) : Option (Nat × List Char) :=
  let digits := s.takeWhile Char.isDigit
  let n := Decimal.ofDigits digits
  if digits.isEmpty || largestCount < n then none else some (n, s.drop digits.length)

/-- How often what stands in front may come; no text is once. An upper bound of zero is no upper
bound of its own. -/
def quantified? (p : Pattern) : List Char → Option (Pattern × List Char)
  | '?' :: rest => some (repeated 0 (some 1) p, rest)
  | '*' :: rest => some (repeated 0 none p, rest)
  | '+' :: rest => some (repeated 1 none p, rest)
  | '\x7b' :: rest => do
    let (least, rest) ← count? rest
    match rest with
    | '\x7d' :: rest => return (repeated least (some least) p, rest)
    | ',' :: '\x7d' :: rest => return (repeated least none p, rest)
    | ',' :: rest => do
      let (most, rest) ← count? rest
      match rest with
      | '\x7d' :: rest => return (repeated least (some (if most = 0 then least else most)) p, rest)
      | _ => none
    | _ => none
  | rest => some (p, rest)

/-- Parentheses may be this deep. -/
def maxNesting : Nat := 50

/-- What stands where a character may stand; nothing if a branch ends there. -/
def atom? : List Char → Option (Option (Pattern × List Char))
  | '[' :: rest =>
    (group? (2 * rest.length + 2) .member '[' rest).map fun (g, rest) => some (group g, rest)
  | '.' :: rest => some (some (single .line false, rest))
  | '\\' :: rest =>
    (escape? rest).map fun (set, isNegated, rest) => some (single set isNegated, rest)
  | c :: rest =>
    if "?*+|)]".toList.contains c then some none
    else some (some (single (.single c.toNat) false, rest))
  | [] => some none

mutual

/-- Branches with bars between them. -/
def branches? : Nat → Nat → List Char → Option (Pattern × List Char)
  | 0, _, _ => none
  | n + 1, depth, s => do
    let (p, rest) ← branch? n depth s
    match rest with
    | '|' :: rest => do
      let (q, rest) ← branches? n depth rest
      return (p.orElse q, rest)
    | _ => return (p, rest)

def branch? : Nat → Nat → List Char → Option (Pattern × List Char)
  | 0, _, _ => none
  | n + 1, depth, '(' :: rest => do
    if depth = maxNesting then none
    let (p, rest) ← branches? n (depth + 1) rest
    match rest with
    | ')' :: rest => pieces? n depth p rest
    | _ => none
  | n + 1, depth, s => do
    match ← atom? s with
    | none => return (blank, s)
    | some (p, rest) => pieces? n depth p rest

/-- A quantifier for `p` and what follows it in its branch. -/
def pieces? : Nat → Nat → Pattern → List Char → Option (Pattern × List Char)
  | 0, _, _, _ => none
  | n + 1, depth, p, s => do
    let (p, rest) ← quantified? p s
    let (q, rest) ← branch? n depth rest
    return (p.andThen q, rest)

end

/-- The pattern that a whole text stands for. -/
def ofText? (text : String) : Option Pattern :=
  match branches? (4 * text.length + 4) 0 text.toList with
  | some (p, []) => some p
  | _ => none

end ServiceDescription.Datatype.Pattern
