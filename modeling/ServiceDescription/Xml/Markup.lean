import ServiceDescription.Xml.Character

/-! The markup of a document: a text is cut into tags, character data, references, comments and
processing instructions. Whether the tags match and what the names mean is not decided here. Line
ends are single line feeds. -/
namespace ServiceDescription.Xml.Markup

/-- What follows a leading `pre`, if the text has it. -/
def after? : List Char → List Char → Option (List Char)
  | [], s => some s
  | c :: pre, d :: s => if c = d then after? pre s else none
  | _ :: _, [] => none

def skipSpace (s : List Char) : List Char := s.dropWhile isSpace

/-- At least one space. -/
def space? (s : List Char) : Option (List Char) :=
  match s with
  | c :: rest => if isSpace c then some (skipSpace rest) else none
  | [] => none

/-- The text before the first `stop` and the text after it. -/
def until? (stop : List Char) : List Char → Option (List Char × List Char)
  | [] => (after? stop []).map fun rest => ([], rest)
  | c :: s =>
    match after? stop (c :: s) with
    | some rest => some ([], rest)
    | none => (until? stop s).map fun found => (c :: found.1, found.2)

/-- A text between quotes of one kind. -/
def literal? : List Char → Option (List Char × List Char)
  | '"' :: s => until? ['"'] s
  | '\'' :: s => until? ['\''] s
  | _ => none

/-- Part of character data or of an attribute value. The five predefined entities are characters. -/
inductive Run where
  | literal (s : List Char)
  | character (c : Char)
  | entity (name : String)
  deriving DecidableEq, Repr

def predefined? : String → Option Char
  | "lt" => some '<'
  | "gt" => some '>'
  | "amp" => some '&'
  | "quot" => some '"'
  | "apos" => some '\''
  | _ => none

def hexValue? (c : Char) : Option Nat :=
  if c.isDigit then some (c.toNat - '0'.toNat)
  else if 'a' ≤ c && c ≤ 'f' then some (c.toNat - 'a'.toNat + 10)
  else if 'A' ≤ c && c ≤ 'F' then some (c.toNat - 'A'.toNat + 10)
  else none

def decimalValue? (c : Char) : Option Nat :=
  if c.isDigit then some (c.toNat - '0'.toNat) else none

/-- A number in the given base; there must be a digit. -/
def number? (base : Nat) (digit : Char → Option Nat) : List Char → Option Nat
  | [] => none
  | s => s.foldlM (fun n c => (digit c).map (base * n + ·)) 0

def characterNumbered? (n : Nat) : Option Char :=
  if h : n.isValidChar then
    let c := Char.ofNatAux n h
    if isDocumentChar c then some c else none
  else none

/-- The text between an ampersand and its semicolon. -/
def reference? : List Char → Option Run
  | '#' :: 'x' :: digits => ((number? 16 hexValue? digits).bind characterNumbered?).map .character
  | '#' :: digits => ((number? 10 decimalValue? digits).bind characterNumbered?).map .character
  | s =>
    match name? s with
    | some (name, []) =>
      match predefined? name with
      | some c => some (.character c)
      | none => some (.entity name)
    | _ => none

def literalRun (s : List Char) : List Run := if s.isEmpty then [] else [.literal s]

/-- A text with its references taken apart: what follows an ampersand begins with a reference and
the semicolon that ends it. -/
def runs? (s : List Char) : Option (List Run) :=
  if s.all isDocumentChar then
    match s.splitOn '&' with
    | [] => some []
    | first :: rest => do
      let rest ← rest.mapM fun part =>
        match part.dropWhile (· ≠ ';') with
        | _ :: tail =>
          (reference? (part.takeWhile (· ≠ ';'))).map fun r => r :: literalRun tail
        | [] => none
      return literalRun first ++ rest.flatten
  else none

/-- A name and a value as a start tag gives them. -/
structure RawAttribute where
  name : String
  value : List Run
  deriving DecidableEq, Repr

inductive Piece where
  | startTag (name : String) (attributes : List RawAttribute) (closed : Bool)
  | endTag (name : String)
  | run (r : Run)
  | verbatim (s : List Char)
  | comment (s : List Char)
  | instruction (target : String) (data : List Char)
  deriving DecidableEq, Repr

/-- An attribute value holds no less-than sign. -/
def attributeValue? (s : List Char) : Option (List Run) :=
  if s.contains '<' then none else runs? s

/-- The attributes of a start tag, a space before each, and its end. -/
def attributes? : Nat → List Char → Option (List RawAttribute × Bool × List Char)
  | 0, _ => none
  | fuel + 1, s =>
    match skipSpace s with
    | '>' :: rest => some ([], false, rest)
    | '/' :: '>' :: rest => some ([], true, rest)
    | _ => do
      let (name, s) ← name? (← space? s)
      let (value, s) ← literal? (skipSpace (← after? ['='] (skipSpace s)))
      let (later, closed, s) ← attributes? fuel s
      return (⟨name, ← attributeValue? value⟩ :: later, closed, s)

def comment? (s : List Char) : Option (List Char × List Char) := do
  let (body, s) ← until? ['-', '-'] s
  let s ← after? ['>'] s
  if body.all isDocumentChar then some (body, s) else none

/-- No instruction may have the target xml, in any letter case. -/
def instruction? (s : List Char) : Option (String × List Char × List Char) := do
  let (target, s) ← name? s
  if target.toList.map Char.toLower = ['x', 'm', 'l'] then none
  else
    match after? ['?', '>'] s with
    | some s => some (target, [], s)
    | none => do
      let (data, s) ← until? ['?', '>'] (← space? s)
      if data.all isDocumentChar then some (target, data, s) else none

def verbatim? (s : List Char) : Option (List Char × List Char) := do
  let (body, s) ← until? [']', ']', '>'] s
  if body.all isDocumentChar then some (body, s) else none

/-- The piece after a less-than sign; `fuel` bounds the number of attributes it may have. -/
def markup? (fuel : Nat) : List Char → Option (Piece × List Char)
  | '/' :: s => do
    let (name, s) ← name? s
    let s ← after? ['>'] (skipSpace s)
    return (.endTag name, s)
  | '?' :: s => do
    let (target, data, s) ← instruction? s
    return (.instruction target data, s)
  | '!' :: '-' :: '-' :: s => do
    let (body, s) ← comment? s
    return (.comment body, s)
  | '!' :: s => do
    let (body, s) ← verbatim? (← after? "[CDATA[".toList s)
    return (.verbatim body, s)
  | s => do
    let (name, s) ← name? s
    let (attributes, closed, s) ← attributes? fuel s
    return (.startTag name attributes closed, s)

/-- Character data up to the next markup; it must not hold the end of a verbatim section. -/
def characterData? (s : List Char) : Option (List Piece × List Char) :=
  let data := s.takeWhile (· ≠ '<')
  if (until? [']', ']', '>'] data).isSome then none
  else (runs? data).map fun rs => (rs.map .run, s.dropWhile (· ≠ '<'))

/-- The pieces at the front of a text: markup, or all character data up to the next markup. -/
def next? (s : List Char) : Option (List Piece × List Char) :=
  match s with
  | '<' :: rest => (markup? (rest.length + 1) rest).map fun found => ([found.1], found.2)
  | s => characterData? s

end ServiceDescription.Xml.Markup
