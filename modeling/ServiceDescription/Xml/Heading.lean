import ServiceDescription.Xml.Markup

/-! The declaration that may open a document: its version, its encoding and whether it stands
alone. -/
namespace ServiceDescription.Xml
open Markup

structure Heading where
  version : String
  encoding : Option String := none
  standalone : Bool := false
  deriving DecidableEq, Repr

namespace Heading

/-- `key = "value"`, after a space. -/
def setting? (key : String) (s : List Char) : Option (List Char × List Char) := do
  let s ← after? key.toList (← space? s)
  let s ← after? ['='] (skipSpace s)
  literal? (skipSpace s)

/-- Every version of the first edition family is read. -/
def isVersion (v : List Char) : Bool :=
  match v with
  | '1' :: '.' :: minor => minor.all Char.isDigit
  | _ => false

def isEncoding (e : List Char) : Bool :=
  match e with
  | c :: rest => c.isAlpha && rest.all fun d => d.isAlphanum || d = '.' || d = '_' || d = '-'
  | [] => false

def encoding? (s : List Char) : Option (Option String × List Char) :=
  match setting? "encoding" s with
  | some (e, s) => if isEncoding e then some (some (String.ofList e), s) else none
  | none => some (none, s)

def standalone? (s : List Char) : Option (Bool × List Char) :=
  match setting? "standalone" s with
  | some (v, s) =>
    if v = "yes".toList then some (true, s) else if v = "no".toList then some (false, s) else none
  | none => some (false, s)

/-- The settings come in this order, and nothing else does. -/
def body? (s : List Char) : Option (Heading × List Char) := do
  let (version, s) ← setting? "version" s
  let (encoding, s) ← encoding? s
  let (standalone, s) ← standalone? s
  let s ← after? ['?', '>'] (skipSpace s)
  if isVersion version then some (⟨String.ofList version, encoding, standalone⟩, s) else none

/-- The text after the keyword of a declaration, if the document opens with one. -/
def keyword? (s : List Char) : Option (List Char) :=
  match after? "<?xml".toList s with
  | some (c :: rest) => if isSpace c then some (c :: rest) else none
  | _ => none

end Heading
end ServiceDescription.Xml
