import ServiceDescription.Xml.CodePage
import ServiceDescription.Xml.Heading

/-! Documents as octets. A byte order mark tells the encoding; without one the declaration of the
document does, and without that the encoding is UTF-8. Encodings for which a conversion library
(iconv) is needed are left out: a document that declares Shift_JIS, EUC-JP or GBK is refused here,
where a reader that has such a library accepts it. -/
namespace ServiceDescription.Xml.Octets

inductive Encoding where
  | utf8 | utf16 (bigEndian : Bool) | latin1 | ascii | page (p : CodePage)
  deriving DecidableEq, Repr

def latin1Names : List String :=
  ["iso-8859-1", "iso_8859-1", "iso8859-1", "iso-latin-1", "iso-ir-100", "cp819", "ibm819",
    "latin1", "l1", "csisolatin1"]

def asciiNames : List String :=
  ["us-ascii", "ascii", "iso646-us", "iso-ir-6", "ansi_x3.4-1968", "ansi_x3.4-1986", "cp367",
    "ibm367", "us", "csascii"]

/-- The encodings that a declaration may name, letter case aside. UTF-16 is not among them, since a
declaration that can be read one octet at a time is not in it. Neither is any other encoding with
characters of several octets: names such as Shift_JIS, EUC-JP or GBK, which a conversion library
would know, count as names of no encoding. -/
def named? (name : String) : Option Encoding :=
  let lower := String.ofList (name.toList.map Char.toLower)
  if ["utf-8", "utf8"].contains lower then some .utf8
  else if latin1Names.contains lower then some .latin1
  else if asciiNames.contains lower then some .ascii
  else (CodePage.named? lower).map .page

/-- Octets in pairs, most significant first if `bigEndian`. -/
def units? (bigEndian : Bool) : List UInt8 → Option (List Nat)
  | [] => some []
  | [_] => none
  | a :: b :: rest =>
    let unit := if bigEndian then a.toNat * 256 + b.toNat else b.toNat * 256 + a.toNat
    (units? bigEndian rest).map (unit :: ·)

/-- The character of a high and a low surrogate. -/
def pair? (high low : Nat) : Option Char :=
  let n := 0x10000 + (high - 0xD800) * 0x400 + (low - 0xDC00)
  if high < 0xDC00 ∧ 0xDC00 ≤ low ∧ low < 0xE000 then some (Char.ofNat n) else none

def ofUnits? : List Nat → Option (List Char)
  | [] => some []
  | high :: low :: rest =>
    if 0xD800 ≤ high ∧ high < 0xE000 then do
      let c ← pair? high low
      let cs ← ofUnits? rest
      return c :: cs
    else (ofUnits? (low :: rest)).map (Char.ofNat high :: ·)
  | [unit] => if 0xD800 ≤ unit ∧ unit < 0xE000 then none else some [Char.ofNat unit]

def latin1 (bytes : List UInt8) : List Char := bytes.map fun b => Char.ofNat b.toNat

def decodeAs? (e : Encoding) (bytes : List UInt8) : Option (List Char) :=
  match e with
  | .utf8 => (String.fromUTF8? ⟨bytes.toArray⟩).map String.toList
  | .utf16 bigEndian => (units? bigEndian bytes).bind ofUnits?
  | .latin1 => some (latin1 bytes)
  | .ascii => if bytes.all (· < 128) then some (latin1 bytes) else none
  | .page p => bytes.mapM p.decode?

/-- The encoding of octets without a byte order mark. -/
def declared? (bytes : List UInt8) : Option Encoding :=
  match bytes with
  | 0x3C :: 0x00 :: 0x3F :: 0x00 :: _ => some (.utf16 false)
  | 0x00 :: 0x3C :: 0x00 :: 0x3F :: _ => some (.utf16 true)
  | _ =>
    match (Heading.keyword? (latin1 bytes)).bind Heading.body? with
    | some (⟨_, some name, _⟩, _) => named? name
    | _ => some .utf8

/-- The text of a document; none for octets that are no text in its encoding. -/
def decode? (bytes : List UInt8) : Option (List Char) :=
  match bytes with
  | 0xEF :: 0xBB :: 0xBF :: rest => decodeAs? .utf8 rest
  | 0xFE :: 0xFF :: rest => decodeAs? (.utf16 true) rest
  | 0xFF :: 0xFE :: rest => decodeAs? (.utf16 false) rest
  | _ => (declared? bytes).bind fun e => decodeAs? e bytes

end ServiceDescription.Xml.Octets
