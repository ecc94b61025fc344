import ServiceDescription.Xml.Assembly
import ServiceDescription.Xml.Octets
import ServiceDescription.Xml.Subset

/-! Whole documents: a declaration, a document type declaration and one element, with comments and
processing instructions around them. A document is read unless its markup is broken or its faults
spoil it. -/
namespace ServiceDescription.Xml.Document
open Markup

/-- Every line end becomes a line feed. -/
def lineFeeds : List Char → List Char
  | '\r' :: '\n' :: rest => '\n' :: lineFeeds rest
  | '\r' :: rest => '\n' :: lineFeeds rest
  | c :: rest => c :: lineFeeds rest
  | [] => []

/-- Comments, processing instructions and space, and what follows them. -/
def misc? : Nat → List Char → Option (List Piece × List Char)
  | 0, _ => none
  | fuel + 1, s =>
    match skipSpace s with
    | '<' :: '?' :: rest => item fuel ('?' :: rest)
    | '<' :: '!' :: '-' :: '-' :: rest => item fuel ('!' :: '-' :: '-' :: rest)
    | rest => some ([], rest)
where
  item (fuel : Nat) (s : List Char) : Option (List Piece × List Char) := do
    let (piece, s) ← markup? (fuel + 1) s
    let (later, s) ← misc? fuel s
    return (piece :: later, s)

def remarksOf (ps : List Piece) : List Remark :=
  ps.flatMap fun
    | .instruction target _ => instructionRemarks target
    | _ => []

/-- The document type of a document that may have none, and what follows it. -/
def documentTypeOf? (standalone : Bool) (s : List Char) : Option (DocumentType × List Char) :=
  match after? "<!DOCTYPE".toList s with
  | some s => documentType? standalone s
  | none => some ({ standalone := standalone }, s)

def headingOf? (s : List Char) : Option (Option Heading × List Char) :=
  match Heading.keyword? s with
  | some s => (Heading.body? s).map fun found => (some found.1, found.2)
  | none => some (none, s)

/-- The root element of a document text. What is left over after it does not count once there has
been a fault. -/
def ofText? (text : List Char) : Option Node := do
  let text := lineFeeds text
  let (heading, s) ← headingOf? text
  let (before, s) ← misc? (s.length + 1) s
  let (d, s) ← documentTypeOf? (heading.any (·.standalone)) s
  let (between, s) ← misc? (s.length + 1) s
  let d := { d with allowance := max d.allowance (5 * text.length) }
  let remarks := remarksOf before ++ d.remarks ++ remarksOf between
  let (a, s) ← Assembly.root? d ({ remarks := remarks } : Findings) s
  let (after, s) ← misc? (s.length + 1) s
  let f := a.findings.remark (remarksOf after)
  if (s.isEmpty || f.hasFault) && !f.spoil then a.finished.head? else none

def ofOctets? (bytes : List UInt8) : Option Node := (Octets.decode? bytes).bind ofText?

/-- A text is read through its UTF-8 octets, so that a declared encoding counts for it too. -/
def ofString? (text : String) : Option Node := ofOctets? text.toUTF8.toList

end ServiceDescription.Xml.Document
