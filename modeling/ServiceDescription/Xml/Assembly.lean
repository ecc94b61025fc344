import ServiceDescription.Xml.Tag

/-! Assembling the tree of a document from its pieces: tags are matched and references to entities
are checked. A reference in text stays a node; the text of its entity is read once, as content on
its own, to see whether it is balanced. -/
namespace ServiceDescription.Xml
open Markup

/-- An element whose end tag has not come; its content is held last first. -/
structure OpenElement where
  name : String
  tag : Tag
  outer : Scope
  content : List Node
  deriving Repr

/-- A tree in the making: the open elements, innermost first, and what stands beside them, last
first. -/
structure Assembly where
  opened : List OpenElement := []
  finished : List Node := []
  findings : Findings := {}
  deriving Repr

namespace Assembly

def scope (a : Assembly) : Scope :=
  match a.opened with
  | e :: _ => e.tag.declarations ++ e.outer
  | [] => []

/-- Text next to text is one text. -/
def push (n : Node) (content : List Node) : List Node :=
  match n, content with
  | .text s, .text t :: rest => .text (t ++ s) :: rest
  | n, content => n :: content

def add (a : Assembly) (n : Node) : Assembly :=
  match a.opened with
  | e :: rest => { a with opened := { e with content := push n e.content } :: rest }
  | [] => { a with finished := push n a.finished }

def addText (a : Assembly) (s : List Char) : Assembly :=
  if s.isEmpty then a else a.add (.text (String.ofList s))

/-- The most elements that may be open inside one another. -/
def maxDepth : Nat := 256

/-- Where content stands: how many elements are open around it, and how many entities may be open
inside one another in it. -/
structure Place where
  around : Nat
  nesting : Nat
  deriving DecidableEq, Repr

/-- Reads the entity that text refers to, `around` elements being open. -/
abbrev EntityReader := Nat → Findings → String → Option Findings

/-- One more piece. -/
def step? (d : DocumentType) (p : Place) (entity? : EntityReader) (a : Assembly) :
    Piece → Option Assembly
  | .startTag name attributes closed => do
    if maxDepth ≤ p.around + a.opened.length then none
    else
      let (tag, f) ← Tag.ofStart? d p.nesting a.scope name attributes a.findings
      let a := { a with findings := f }
      return if closed then a.add (.element tag [])
        else { a with opened := ⟨name, tag, a.scope, []⟩ :: a.opened }
  | .endTag name =>
    match a.opened with
    | e :: rest =>
      if e.name = name then
        some ({ a with opened := rest }.add (.element e.tag e.content.reverse))
      else none
    | [] => none
  | .run (.literal s) => some (a.addText s)
  | .run (.character c) => some (a.addText [c])
  | .verbatim s => some (a.addText s)
  | .run (.entity name) => do
    let f ← entity? (p.around + a.opened.length) a.findings name
    return { a with findings := f }.add (.reference name)
  | .comment s => some (a.add (.comment (String.ofList s)))
  | .instruction target data =>
    some ({ a with findings := a.findings.remark (instructionRemarks target) }.add
      (.instruction target (String.ofList data)))

def isEndTag (s : List Char) : Bool := ['<', '/'].isPrefixOf s

/-- Reads content up to the end of the text, or up to an end tag that belongs to nothing in it. If
`single`, it is over when no element is open any more. -/
def content? (d : DocumentType) (p : Place) (entity? : EntityReader) (single : Bool) :
    Nat → Assembly → List Char → Option (Assembly × List Char)
  | _, a, [] => some (a, [])
  | 0, _, _ => none
  | fuel + 1, a, s =>
    if a.opened.isEmpty && isEndTag s then some (a, s)
    else do
      let (pieces, rest) ← next? s
      let a ← pieces.foldlM (step? d p entity?) a
      if single && a.opened.isEmpty then some (a, rest)
      else content? d p entity? single fuel a rest

/-- A reference in text. The text of an internal entity is read the first time only. -/
def entity? (d : DocumentType) (text? : Nat → Findings → List Char → Option Findings) :
    EntityReader := fun around f name =>
  match d.entities.lookup name with
  | some (.internal text) => do
    let f ← d.copy? name f
    if f.read.contains name then some f
    else
      let f ← text? around f text
      return { f with read := name :: f.read }
  | some .external => some f
  | some .unparsed => none
  | none => if d.mayHideDeclarations then some (f.remark [.warning]) else none

/-- Reads the text of an entity, which counts as an element around its content. All its elements end
in it. What follows a stray end tag is not read once there has been a fault. -/
def text? (d : DocumentType) : Nat → Nat → Findings → List Char → Option Findings
  | 0, _, _, _ => none
  | nesting + 1, around, f, s =>
    if maxDepth ≤ around then none
    else do
      let (a, rest) ← content? d ⟨around + 1, nesting⟩ (entity? d (text? d nesting)) false
        (s.length + 1) { findings := f } s
      if a.opened.isEmpty && (rest.isEmpty || a.findings.hasFault) then some a.findings else none

/-- Reads one element and returns what follows it. -/
def root? (d : DocumentType) (f : Findings) (s : List Char) : Option (Assembly × List Char) := do
  let (a, rest) ← content? d ⟨0, DocumentType.maxNesting⟩
    (entity? d (text? d DocumentType.maxNesting)) true (s.length + 1) { findings := f } s
  if a.opened.isEmpty && a.finished.all Node.isElement && !a.finished.isEmpty then some (a, rest)
  else none

end Assembly
end ServiceDescription.Xml
