import ServiceDescription.Text.DecimalDigit
import ServiceDescription.Text.Printable
import ServiceDescription.Xml.ClassicName

/-! Sets of characters: single ones, ranges, the classes of a pattern and groups of all these.
Characters are told apart by their general category; beyond the first 256 characters only letters,
digits and what cannot be printed are known. -/
namespace ServiceDescription.Datatype
open Xml

/-- The general categories of the first 256 characters: first and last character, category. -/
def latinCategories : List (Nat × Nat × String) :=
  [(0x00, 0x1F, "Cc"), (0x20, 0x20, "Zs"), (0x21, 0x23, "Po"), (0x24, 0x24, "Sc"),
    (0x25, 0x27, "Po"), (0x28, 0x28, "Ps"), (0x29, 0x29, "Pe"), (0x2A, 0x2A, "Po"),
    (0x2B, 0x2B, "Sm"), (0x2C, 0x2C, "Po"), (0x2D, 0x2D, "Pd"), (0x2E, 0x2F, "Po"),
    (0x30, 0x39, "Nd"), (0x3A, 0x3B, "Po"), (0x3C, 0x3E, "Sm"), (0x3F, 0x40, "Po"),
    (0x41, 0x5A, "Lu"), (0x5B, 0x5B, "Ps"), (0x5C, 0x5C, "Po"), (0x5D, 0x5D, "Pe"),
    (0x5E, 0x5E, "Sk"), (0x5F, 0x5F, "Pc"), (0x60, 0x60, "Sk"), (0x61, 0x7A, "Ll"),
    (0x7B, 0x7B, "Ps"), (0x7C, 0x7C, "Sm"), (0x7D, 0x7D, "Pe"), (0x7E, 0x7E, "Sm"),
    (0x7F, 0x9F, "Cc"), (0xA0, 0xA0, "Zs"), (0xA1, 0xA1, "Po"), (0xA2, 0xA5, "Sc"),
    (0xA6, 0xA7, "So"), (0xA8, 0xA8, "Sk"), (0xA9, 0xA9, "So"), (0xAA, 0xAA, "Ll"),
    (0xAB, 0xAB, "Pi"), (0xAC, 0xAC, "Sm"), (0xAD, 0xAD, "Cf"), (0xAE, 0xAE, "So"),
    (0xAF, 0xAF, "Sk"), (0xB0, 0xB0, "So"), (0xB1, 0xB1, "Sm"), (0xB2, 0xB3, "No"),
    (0xB4, 0xB4, "Sk"), (0xB5, 0xB5, "Ll"), (0xB6, 0xB6, "So"), (0xB7, 0xB7, "Po"),
    (0xB8, 0xB8, "Sk"), (0xB9, 0xB9, "No"), (0xBA, 0xBA, "Ll"), (0xBB, 0xBB, "Pf"),
    (0xBC, 0xBE, "No"), (0xBF, 0xBF, "Po"), (0xC0, 0xD6, "Lu"), (0xD7, 0xD7, "Sm"),
    (0xD8, 0xDE, "Lu"), (0xDF, 0xF6, "Ll"), (0xF7, 0xF7, "Sm"), (0xF8, 0xFF, "Ll")]

/-- The general category of a character. -/
def category (c : Char) : String :=
  match latinCategories.find? fun r => r.1 ≤ c.toNat && c.toNat ≤ r.2.1 with
  | some r => r.2.2
  | none =>
    if (Text.digitValue? c).isSome then "Nd"
    else if ClassicName.isLetter c then "Lo"
    else if Text.isPrintable c then "So"
    else "Cn"

/-- The classes that have a letter of their own in a pattern. -/
inductive CharacterClass where
  | space
  | nameStart
  | nameCharacter
  | digit
  | word
  deriving DecidableEq, Repr

namespace CharacterClass

def contains (c : Char) : CharacterClass → Bool
  | space => isSpace c
  | nameStart => ClassicName.isStart c || c = ':'
  | nameCharacter => ClassicName.isFollower c || c = ':'
  | digit => (Text.digitValue? c).isSome
  | word => ["P", "Z", "C"].all (!(category c).startsWith ·)

def ofLetter? : Char → Option CharacterClass
  | 's' => some space
  | 'i' => some nameStart
  | 'c' => some nameCharacter
  | 'd' => some digit
  | 'w' => some word
  | _ => none

end CharacterClass

/-- Characters by number, in a range, or by what they are. Line ends are in no line, and the
characters of a block are not known. -/
inductive CharacterSet where
  | range (first last : Nat)
  | line
  | kind (k : CharacterClass) (isNegated : Bool)
  | category (name : String)
  | block (name : String)
  deriving DecidableEq, Repr

namespace CharacterSet

def single (code : Nat) : CharacterSet := range code code

def contains (c : Char) : CharacterSet → Bool
  | range first last => first ≤ c.toNat && c.toNat ≤ last
  | line => c ≠ '\n' && c ≠ '\r'
  | kind k isNegated => k.contains c != isNegated
  | category name => (Datatype.category c).startsWith name
  | block _ => false

end CharacterSet

/-- What a set does in a group: its members belong to the group, or all others do, or its members do
not whatever else the group says. -/
inductive Role where
  | member
  | outsider
  | excluded
  deriving DecidableEq, Repr

namespace Role

/-- The role that sets have after the sign of negation. -/
def negated : Role → Role
  | member => outsider
  | outsider => member
  | excluded => member

end Role

/-- A group of sets with their roles. -/
abbrev CharacterGroup := List (Role × CharacterSet)

namespace CharacterGroup

/-- A character belongs to a group if some set lets it in and none keeps it out. -/
def contains (c : Char) (g : CharacterGroup) : Bool :=
  (g.any fun (role, set) =>
    match role with
    | .member => set.contains c
    | .outsider => !set.contains c
    | .excluded => false) &&
  g.all fun (role, set) => role = .member || !set.contains c

end CharacterGroup
end ServiceDescription.Datatype
