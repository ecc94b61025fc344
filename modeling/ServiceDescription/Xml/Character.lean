/-! The character classes of XML 1.0 and the names built from them. -/
namespace ServiceDescription.Xml

/-- Characters that a document may contain. -/
def isDocumentChar (c : Char) : Bool :=
  let n := c.toNat
  n == 0x9 || n == 0xA || n == 0xD || (0x20 ≤ n && n ≤ 0xD7FF) || (0xE000 ≤ n && n ≤ 0xFFFD) ||
    (0x10000 ≤ n && n ≤ 0x10FFFF)

/-- White space of the markup; the text of a document knows no other. -/
def isSpace (c : Char) : Bool := c = ' ' || c = '\t' || c = '\n' || c = '\r'

def isNameStart (c : Char) : Bool :=
  let n := c.toNat
  c.isAlpha || c = '_' || c = ':' || (0xC0 ≤ n && n ≤ 0xD6) || (0xD8 ≤ n && n ≤ 0xF6) ||
    (0xF8 ≤ n && n ≤ 0x2FF) || (0x370 ≤ n && n ≤ 0x37D) || (0x37F ≤ n && n ≤ 0x1FFF) ||
    (0x200C ≤ n && n ≤ 0x200D) || (0x2070 ≤ n && n ≤ 0x218F) || (0x2C00 ≤ n && n ≤ 0x2FEF) ||
    (0x3001 ≤ n && n ≤ 0xD7FF) || (0xF900 ≤ n && n ≤ 0xFDCF) || (0xFDF0 ≤ n && n ≤ 0xFFFD) ||
    (0x10000 ≤ n && n ≤ 0xEFFFF)

def isNameChar (c : Char) : Bool :=
  let n := c.toNat
  isNameStart c || c.isDigit || c = '-' || c = '.' || n == 0xB7 || (0x300 ≤ n && n ≤ 0x36F) ||
    (0x203F ≤ n && n ≤ 0x2040)

/-- A name at the front of a text and what follows it. -/
def name? : List Char → Option (String × List Char)
  | c :: rest =>
    if isNameStart c then
      some (String.ofList (c :: rest.takeWhile isNameChar), rest.dropWhile isNameChar)
    else none
  | [] => none

/-- A name without a colon. -/
def isSimpleName (s : List Char) : Bool :=
  match s with
  | c :: rest => isNameStart c && rest.all isNameChar && !s.contains ':'
  | [] => false

/-- The parts of a name before and after its colon; a name may have one colon, with a simple name on
either side. -/
def splitName? (name : String) : Option (String × String) :=
  let s := name.toList
  let before := s.takeWhile (· ≠ ':')
  match s.dropWhile (· ≠ ':') with
  | [] => if isSimpleName s then some ("", name) else none
  | _ :: after =>
    if isSimpleName before && isSimpleName after then
      some (String.ofList before, String.ofList after)
    else none

end ServiceDescription.Xml
