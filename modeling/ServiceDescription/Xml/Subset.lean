import ServiceDescription.Xml.DocumentType

/-! Reading a document type declaration: the declarations between its brackets, parameter entities
replaced on the way, and the name of an external subset, which is not read. -/
namespace ServiceDescription.Xml
open Markup

namespace Subset

/-- The text of an entity value before a reference to a parameter entity that is not declared, which
ends the value, and whether there is such a reference. A declared one must not stand here. -/
def beforeParameter? (d : DocumentType) (s : List Char) : Option (List Char × Bool) :=
  match s.dropWhile (· ≠ '%') with
  | [] => some (s, false)
  | _ :: rest =>
    match name? rest with
    | some (name, ';' :: _) =>
      if d.standalone || (d.parameters.lookup name).isSome then none
      else some (s.takeWhile (· ≠ '%'), true)
    | _ => none

/-- An entity value with character references replaced; references to general entities stay. -/
def plainValue? (s : List Char) : Option (List Char) :=
  if !s.all isDocumentChar then none
  else
    match s.splitOn '&' with
    | [] => some []
    | first :: rest => do
      let rest ← rest.mapM fun part =>
        match part.dropWhile (· ≠ ';') with
        | _ :: tail =>
          let written := part.takeWhile (· ≠ ';')
          match written, reference? written with
          | '#' :: _, some (.character c) => some (c :: tail)
          | '#' :: _, _ => none
          | _, some _ => some ('&' :: part)
          | _, none => none
        | [] => none
      return first ++ rest.flatten

/-- The replacement text of an entity value. -/
def entityText? (d : DocumentType) (s : List Char) : Option (List Char × DocumentType) := do
  let (s, cut) ← beforeParameter? d s
  let text ← plainValue? s
  return (text,
    if cut then { d with parameterReferences := true }.remark [.warning] else d)

def isPublicChar (c : Char) : Bool :=
  c = ' ' || c = '\n' || c = '\r' || c.isAlphanum || "-'()+,./:=?;!*#@$_%".toList.contains c

def systemLiteral? (s : List Char) : Option (List Char × List Char) :=
  (literal? s).filter fun found => found.1.all isDocumentChar

/-- What is outside the document: its system identifier, if it has one. A public identifier may
stand alone only where `publicAlone` says so. -/
def externalId? (publicAlone : Bool) (s : List Char) : Option (Option (List Char) × List Char) :=
  match after? "SYSTEM".toList s with
  | some s => do
    let (system, s) ← systemLiteral? (← space? s)
    return (some system, s)
  | none => do
    let (identifier, s) ← literal? (← space? (← after? "PUBLIC".toList s))
    if identifier.all isPublicChar then
      match (space? s).bind systemLiteral? with
      | some (system, s) => some (some system, s)
      | none =>
        if publicAlone && (literal? (skipSpace s)).isNone then some (none, s) else none
    else none

/-- An external entity has a system identifier without a fragment. -/
def externalEntity? (s : List Char) : Option (List Char) := do
  let (system, s) ← externalId? false s
  if system.any (·.contains '#') then none else some s

def closing? (s : List Char) : Option (List Char) := after? ['>'] (skipSpace s)

def parameterEntity? (d : DocumentType) (s : List Char) : Option (DocumentType × List Char) := do
  let (name, s) ← name? s
  let s ← space? s
  let d := d.remarkColon name
  match literal? s with
  | some (value, s) =>
    let (text, d) ← entityText? d value
    return (d.addParameter name (some text), ← closing? s)
  | none =>
    let s ← externalEntity? s
    return (d.addParameter name none, ← closing? s)

def generalEntity? (d : DocumentType) (s : List Char) : Option (DocumentType × List Char) := do
  let (name, s) ← name? s
  let s ← space? s
  let d := d.remarkColon name
  match literal? s with
  | some (value, s) =>
    let (text, d) ← entityText? d value
    return (d.addEntity name (.internal text), ← closing? s)
  | none =>
    let s ← externalEntity? s
    match (space? s).bind (after? "NDATA".toList) with
    | some s =>
      let s ← space? s
      let s := ((name? s).map (·.2)).getD s
      return (d.addEntity name .unparsed, ← closing? s)
    | none => return (d.addEntity name .external, ← closing? s)

def entity? (d : DocumentType) (s : List Char) : Option (DocumentType × List Char) := do
  let s ← space? s
  match s with
  | '%' :: s => parameterEntity? d (← space? s)
  | s => generalEntity? d s

def notationDeclaration? (d : DocumentType) (s : List Char) :
    Option (DocumentType × List Char) := do
  let (name, s) ← name? (← space? s)
  let (_, s) ← externalId? true (← space? s)
  return ((d.remarkColon name).addNotation name, ← closing? s)

/-- A sign that says how often a part of a content model may occur. -/
def skipRepetition : List Char → List Char
  | '?' :: s => s
  | '*' :: s => s
  | '+' :: s => s
  | s => s

/-- The most groups of a content model that may be open inside one another. -/
def maxGroups : Nat := 256

mutual

/-- The parts of a group after its first, all with the separator of the first two, and its end.
`depth` more groups may be opened. -/
def groupTail? (depth : Nat) : Nat → Option Char → List Char → Option (List Char)
  | 0, _, _ => none
  | fuel + 1, separator, s =>
    match skipSpace s with
    | ')' :: rest => some (skipRepetition rest)
    | c :: rest =>
      if (c = '|' || c = ',') && separator.all (· = c) then do
        groupTail? depth fuel (some c) (← particle? depth fuel (skipSpace rest))
      else none
    | [] => none

/-- A name or a group in a content model. -/
def particle? : Nat → Nat → List Char → Option (List Char)
  | _, 0, _ => none
  | 0, _, '(' :: _ => none
  | depth + 1, fuel + 1, '(' :: s => do
    groupTail? depth fuel none (← particle? depth fuel (skipSpace s))
  | _, _, s => (name? s).map fun found => skipRepetition found.2

end

/-- The names that may be mixed with text. -/
def mixedTail? : Nat → List Char → Option (List Char)
  | 0, _ => none
  | fuel + 1, s =>
    match skipSpace s with
    | ')' :: '*' :: rest => some rest
    | '|' :: rest => (name? (skipSpace rest)).bind fun found => mixedTail? fuel found.2
    | _ => none

def contentModel? (s : List Char) : Option (List Char) :=
  match s with
  | '(' :: rest =>
    match after? "#PCDATA".toList (skipSpace rest) with
    | some rest =>
      match skipSpace rest with
      | ')' :: '*' :: after => some after
      | ')' :: after => some after
      | _ => mixedTail? s.length rest
    | none => particle? maxGroups s.length s
  | _ => (after? "EMPTY".toList s).or (after? "ANY".toList s)

def element? (d : DocumentType) (s : List Char) : Option (DocumentType × List Char) := do
  let (name, s) ← name? (← space? s)
  let s ← contentModel? (← space? s)
  return (d.addElement name, ← closing? s)

/-- The tokens of an enumerated type up to the closing parenthesis, each read by `token?`. -/
def tokens? (token? : List Char → Option (String × List Char)) :
    Nat → List Char → Option (List String × List Char)
  | 0, _ => none
  | fuel + 1, s => do
    let (token, s) ← token? (skipSpace s)
    match skipSpace s with
    | '|' :: rest => (tokens? token? fuel rest).map fun found => (token :: found.1, found.2)
    | ')' :: rest => some ([token], rest)
    | _ => none

def nameToken? (s : List Char) : Option (String × List Char) :=
  let token := s.takeWhile isNameChar
  if token.isEmpty then none else some (String.ofList token, s.dropWhile isNameChar)

/-- A fault for each token that stood before. -/
def repetitions : List String → List Remark
  | [] => []
  | t :: rest => (if rest.contains t then [.fault] else []) ++ repetitions rest

def attributeTypes : List (String × AttributeType) :=
  [("CDATA", .text), ("ID", .identifier), ("IDREF", .name), ("ENTITY", .name), ("IDREFS", .names),
    ("ENTITIES", .names), ("NMTOKEN", .token), ("NMTOKENS", .tokens)]

/-- The type of an attribute and what is remarked on it. -/
def attributeType? (s : List Char) : Option (AttributeType × List Remark × List Char) :=
  match s with
  | '(' :: rest =>
    (tokens? nameToken? s.length rest).map fun found => (.tokens, repetitions found.1, found.2)
  | _ => do
    let (word, s) ← name? s
    if word = "NOTATION" then
      let s ← after? ['('] (← space? s)
      let (names, s) ← tokens? name? s.length s
      return (.name, repetitions names, s)
    else
      return (← attributeTypes.lookup word, [], s)

def isName (s : List Char) : Bool :=
  match name? s with
  | some (_, rest) => rest.isEmpty
  | none => false

def isToken (s : List Char) : Bool := !s.isEmpty && s.all isNameChar

/-- Words with spaces between them. -/
def spacedWords (s : List Char) : List (List Char) := (s.splitOn ' ').filter (!·.isEmpty)

/-- Whether a default value is of the type of its attribute. -/
def isOfType (s : List Char) : AttributeType → Bool
  | .text => true
  | .identifier | .name => isName s
  | .names => !s.isEmpty && (spacedWords s).all isName
  | .token => isToken s
  | .tokens => !s.isEmpty && (spacedWords s).all isToken

/-- The text of a default value. It is kept as it is written: a reference to an entity stays one,
and so does an ampersand. -/
def defaultText (d : DocumentType) (rs : List Run) : List Char :=
  rs.flatMap fun
    | .literal s => s.map fun c => if isSpace c then ' ' else c
    | .character '&' => "&#38;".toList
    | .character c => [c]
    | .entity name =>
      if (d.entities.lookup name).isSome then '&' :: name.toList ++ [';'] else []

/-- The default value of an attribute, if it has one. The entities in it have to be declared
already. -/
def defaultValue? (depth : Nat) (d : DocumentType) (s : List Char) :
    Option (Option (List Char) × DocumentType × List Char) :=
  match (after? "#REQUIRED".toList s).or (after? "#IMPLIED".toList s) with
  | some s => some (none, d, s)
  | none => do
    let s ←
      match after? "#FIXED".toList s with
      | some s => space? s
      | none => some s
    let (value, s) ← literal? s
    let value ← attributeValue? value
    let f ← value.foldlM (fun f r =>
      match r with
      | .entity name => d.check? depth f name
      | _ => some f) ({} : Findings)
    return (some (defaultText d value), d.remark f.remarks, s)

/-- The identifier of the XML vocabulary has to be declared as one, and a default value has to be of
the type of its attribute. -/
def declare (d : DocumentType) (element name : String) (type : AttributeType)
    (value : Option (List Char)) : DocumentType :=
  let d := d.remark (if name = "xml:id" && type ≠ .identifier then [.fault] else [])
  let value :=
    value.map fun v => if type = .text then v else [' '].intercalate (spacedWords v)
  let valid := value.all (isOfType · type)
  (d.remark (if valid then [] else [.fault])).addAttribute
    ⟨element, name, type, if valid then value.map String.ofList else none⟩

def attributeList? (depth : Nat) (element : String) :
    Nat → DocumentType → List Char → Option (DocumentType × List Char)
  | 0, _, _ => none
  | fuel + 1, d, s =>
    match closing? s with
    | some s => some (d, s)
    | none => do
      let (name, s) ← name? (← space? s)
      let (type, remarks, s) ← attributeType? (← space? s)
      let (value, d, s) ← defaultValue? depth (d.remark remarks) (← space? s)
      attributeList? depth element fuel (declare d element name type value) s

def attributes? (depth : Nat) (d : DocumentType) (s : List Char) :
    Option (DocumentType × List Char) := do
  let (element, s) ← name? (← space? s)
  attributeList? depth element (s.length + 1) d s

/-- One declaration, after its less-than sign. -/
def markup? (depth : Nat) (d : DocumentType) (s : List Char) :
    Option (DocumentType × List Char) :=
  match s with
  | '!' :: '-' :: '-' :: s => (comment? s).map fun found => (d, found.2)
  | '?' :: s =>
    (instruction? s).map fun found => (d.remark (instructionRemarks found.1), found.2.2)
  | _ =>
    match after? "!ENTITY".toList s, after? "!ATTLIST".toList s, after? "!ELEMENT".toList s,
      after? "!NOTATION".toList s with
    | some s, _, _, _ => entity? d s
    | _, some s, _, _ => attributes? depth d s
    | _, _, some s, _ => element? d s
    | _, _, _, some s => notationDeclaration? d s
    | _, _, _, _ => none

/-- Declarations up to a closing bracket or the end; `expand?` reads a parameter entity. -/
def declarationsWith? (expand? : DocumentType → List Char → Option DocumentType) (depth : Nat) :
    Nat → DocumentType → List Char → Option (DocumentType × List Char)
  | 0, _, _ => none
  | fuel + 1, d, s =>
    match skipSpace s with
    | [] => some (d, [])
    | ']' :: rest => some (d, ']' :: rest)
    | '<' :: rest => do
      let (d, s) ← markup? depth d rest
      declarationsWith? expand? depth fuel d s
    | '%' :: rest => do
      let (name, s) ← name? rest
      let s ← after? [';'] s
      let d := { d with parameterReferences := true }
      match d.parameters.lookup name with
      | some (some text) => declarationsWith? expand? depth fuel (← expand? d text) s
      | some none => declarationsWith? expand? depth fuel d s
      | none =>
        if d.standalone then none
        else declarationsWith? expand? depth fuel (d.remark [.warning]) s
    | _ => none

/-- The text of a parameter entity is a list of whole declarations. It may refer to others, up to
`depth` inside one another. -/
def expansion? : Nat → DocumentType → List Char → Option DocumentType
  | 0, _, _ => none
  | depth + 1, d, text => do
    let (d, left) ← declarationsWith? (expansion? depth) depth (text.length + 1) d text
    if left.isEmpty then some d else none

def declarations? (d : DocumentType) (s : List Char) : Option (DocumentType × List Char) :=
  declarationsWith? (expansion? DocumentType.maxNesting) DocumentType.maxNesting (s.length + 1) d s

end Subset

/-- A document type declaration, after its keyword. -/
def documentType? (standalone : Bool) (s : List Char) : Option (DocumentType × List Char) := do
  let (_, s) ← name? (← space? s)
  let s := skipSpace s
  let (external, s) :=
    match Subset.externalId? false s with
    | some (_, s) => (true, skipSpace s)
    | none => (false, s)
  let d : DocumentType := { externalSubset := external, standalone := standalone }
  match s with
  | '[' :: s => do
    let (d, s) ← Subset.declarations? d s
    let s ← after? [']'] s
    return (d.measured, ← Subset.closing? s)
  | s => return (d, ← Subset.closing? s)

end ServiceDescription.Xml
