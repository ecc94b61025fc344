import ServiceDescription.Datatype.Value
import ServiceDescription.Vocabulary
import ServiceDescription.Xml.ClassicName
import ServiceDescription.Xml.Node
import ServiceDescription.Xml.Uri

/-! The literals of the built-in types and the values they stand for. White space has been dealt
with before a literal is read. -/
namespace ServiceDescription.Datatype
open Xml

namespace WhiteSpace

/-- The words of a text, one space between two. -/
def collapsed (s : List Char) : List Char :=
  [' '].intercalate ((s.splitBy fun c d => isSpace c = isSpace d).filter fun w =>
    !(w.any isSpace))

def apply : WhiteSpace → List Char → List Char
  | preserve, s => s
  | replace, s => s.map fun c => if isSpace c then ' ' else c
  | collapse, s => collapsed s

end WhiteSpace

/-- What a literal may refer to: the prefixes that are bound, and the notations that are declared,
by namespace and name. -/
structure Surroundings where
  scope : Scope
  notations : List (Option String × String)
  deriving Repr

namespace Literal

/-- The parts of a language tag, each of at most eight characters; the first has letters only. -/
def isLanguage (s : List Char) : Bool :=
  match s.splitOn '-' with
  | first :: rest =>
    isPart Char.isAlpha first && rest.all (isPart Char.isAlphanum)
  | [] => false
where
  isPart (allowed : Char → Bool) (part : List Char) : Bool :=
    !part.isEmpty && part.length ≤ 8 && part.all allowed

def truth? (s : List Char) : Option Bool :=
  if s = "true".toList || s = ['1'] then some true
  else if s = "false".toList || s = ['0'] then some false
  else none

/-- A number with a point and a power of ten, or one of the names for what is beyond. -/
def real? (isDouble : Bool) (s : List Char) : Option Value :=
  if s = "NaN".toList then some (.real (0.0 / 0.0))
  else
    let (negative, s) := Decimal.sign s
    if s = "INF".toList then some (.real (if negative then -1.0 / 0.0 else 1.0 / 0.0))
    else
      let mantissa := s.takeWhile fun c => c ≠ 'e' && c ≠ 'E'
      let whole := mantissa.takeWhile Char.isDigit
      let fraction? :=
        match mantissa.drop whole.length with
        | [] => some []
        | '.' :: rest => if rest.all Char.isDigit then some rest else none
        | _ => none
      let power? :=
        match s.drop mantissa.length with
        | [] => some 0
        | _ :: power => Decimal.readWhole? power
      match fraction?, power? with
      | some fraction, some power =>
        if whole.isEmpty && fraction.isEmpty then none
        else
          some (Value.realOf isDouble negative (whole ++ fraction) (power - fraction.length))
      | _, _ => none

/-- A whole number in the range of its type. -/
def whole? (t : BuiltIn) (s : List Char) : Option Value :=
  if t.isUnsigned && !s.all Char.isDigit then none
  else
    match Decimal.readWhole? s with
    | some n =>
      if t.range.1.all (· ≤ n) && t.range.2.all (n ≤ ·) then some (.number (Decimal.ofInt n))
      else none
    | none => none

def hex? (s : List Char) : Option Value :=
  if s.all Uri.isHex && s.length % 2 = 0 then
    some (.octets (s.map Char.toUpper) (s.length / 2))
  else none

/-- The value of a digit to the base 64. -/
def digit64? (c : Char) : Option Nat :=
  if c.isUpper then some (c.toNat - 'A'.toNat)
  else if c.isLower then some (c.toNat - 'a'.toNat + 26)
  else if c.isDigit then some (c.toNat - '0'.toNat + 52)
  else if c = '+' then some 62
  else if c = '/' then some 63
  else none

/-- Octets to the base 64. Characters that are no digits are skipped; an incomplete last group is
filled up, and has no bits beyond its octets. -/
def base64? (s : List Char) : Option Value :=
  let s := s.filter fun c => (digit64? c).isSome || c = '='
  let digits := s.takeWhile (· ≠ '=')
  let padding := s.dropWhile (· ≠ '=')
  let last := (digits.getLast?.bind digit64?).getD 0
  let size := 3 * (digits.length / 4)
  let result (more : Nat) := some (Value.octets digits (size + more))
  if !padding.all (· = '=') then none
  else
    match padding.length, digits.length % 4 with
    | 0, 0 => result 0
    | 1, 3 => if last % 4 = 0 then result 2 else none
    | 2, 2 => if last % 16 = 0 then result 1 else none
    | _, _ => none

/-- Characters that are not allowed in a reference to a resource are let through, the space and the
percent sign apart. -/
def isResource (s : List Char) : Bool :=
  Uri.isReference <| String.ofList <| s.map fun c =>
    if c.toNat < 0x20 || 0x7F ≤ c.toNat || "<>\"\x7b\x7d|\\^`".toList.contains c then '_' else c

/-- The namespace of a prefix; for the empty one there need not be any. -/
def space? (scope : Scope) (pre : String) : Option (Option String) :=
  if pre = "xml" then some (some Vocabulary.xml)
  else if pre = "" then some (scope.namespace? "")
  else (scope.namespace? pre).map some

/-- The parts of a qualified name. -/
def parts (s : List Char) : String × String :=
  match s.dropWhile (· ≠ ':') with
  | [] => ("", String.ofList s)
  | _ :: rest => (String.ofList (s.takeWhile (· ≠ ':')), String.ofList rest)

def qualifiedName? (scope : Scope) (s : List Char) : Option Value :=
  if ClassicName.isQualified s then
    (space? scope (parts s).1).map (.name · (parts s).2)
  else none

/-- The name of a notation that is declared. One without a prefix is in no namespace. -/
def notation? (around : Surroundings) (s : List Char) : Option Value :=
  if ClassicName.isQualified s then
    let (pre, localName) := parts s
    let space? := if pre = "" then some none else space? around.scope pre
    match space? with
    | some space =>
      if around.notations.contains (space, localName) then some (.name space localName) else none
    | none => none
  else none

/-- A text of which something is required. -/
def textIf (condition : List Char → Bool) (s : List Char) : Option Value :=
  if condition s then some (.text (String.ofList s)) else none

/-- The value of a literal of a type that is not one of lists. No entity is declared outside a
document. -/
def readAtom? (around : Surroundings) (t : BuiltIn) (s : List Char) : Option Value :=
  match t with
  | .anySimpleType | .string | .normalizedString | .token => some (.text (String.ofList s))
  | .language => textIf isLanguage s
  | .nameToken => textIf ClassicName.isToken s
  | .name => textIf ClassicName.isName s
  | .simpleName | .identifier | .identifierReference => textIf ClassicName.isSimpleName s
  | .entity | .entities | .nameTokens | .identifierReferences => none
  | .boolean => (truth? s).map .truth
  | .float => real? false s
  | .double => real? true s
  | .decimal => (Decimal.read? s).map .number
  | .duration => (Duration.read? s).map .duration
  | .dateTime | .time | .date | .gYearMonth | .gYear | .gMonthDay | .gDay | .gMonth =>
    (Moment.read? t s).map .moment
  | .hexBinary => hex? s
  | .base64Binary => base64? s
  | .anyURI => if s.isEmpty || isResource s then some (.text (String.ofList s)) else none
  | .qualifiedName => qualifiedName? around.scope s
  | .notationName => notation? around s
  | _ => whole? t s

/-- The words of a literal of a list. -/
def words (s : List Char) : List (List Char) := (s.splitOn ' ').filter (!·.isEmpty)

/-- The value of a literal; a built-in list has at least one item. -/
def read? (around : Surroundings) (t : BuiltIn) (s : List Char) : Option Value :=
  match t.item? with
  | none => readAtom? around t s
  | some item =>
    match (words s).mapM (readAtom? around item) with
    | some [] => none
    | some items => some (.list items)
    | none => none

end Literal
end ServiceDescription.Datatype
