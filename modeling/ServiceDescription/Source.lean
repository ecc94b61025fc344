import ServiceDescription.Definition
import ServiceDescription.Xml.Document

/-! Reading a service description from whatever is at hand: a node of a document, octets, a text or
the name of a file. A document has to be well-formed, and its root has to be a definitions element
of the right namespace or of none; nothing else stops the reading. -/
namespace ServiceDescription
open Xml Schema

namespace Definition

inductive Error where
  | fileMissing
  | malformed
  | noRoot
  | otherRoot (name : String)
  | otherNamespace (uri : String)
  | catalog (e : Catalog.Error)
  deriving DecidableEq, Repr

/-- Files and markup that cannot be read have no message of their own. -/
def Error.message? : Error → Option String
  | fileMissing | malformed => none
  | noRoot => some "The XML document has no root element."
  | otherRoot name =>
    some ("The XML document is not a valid WSDL document. Root element must be 'definitions', " ++
      "but found '" ++ name ++ "'.")
  | otherNamespace uri =>
    some ("The definitions element is in namespace '" ++ uri ++ "', expected '" ++
      Vocabulary.wsdl ++ "'.")
  | catalog e => some e.message

/-- Reading that may fail, with the events reported on the way. -/
abbrev Reading := ExceptT Error Reported

/-- Why a root element is refused, if it is. -/
def rootError? (l : Located) : Option Error :=
  if l.localName ≠ "definitions" then some (.otherRoot l.localName)
  else if l.space ≠ "" && l.space ≠ Vocabulary.wsdl then some (.otherNamespace l.space)
  else none

def ofRoot (strict : Bool) : Option Located → Reading Definition
  | none => throw .noRoot
  | some l =>
    match rootError? l with
    | some e => throw e
    | none => do
      if l.space = "" then Reported.report .rootWithoutNamespace
      ExceptT.adapt .catalog (Definition.read strict l)

def ofDocument (strict : Bool) (root : Option Node) : Reading Definition :=
  match root with
  | some n => ofRoot strict (some (.root n))
  | none => throw .malformed

def ofOctets (strict : Bool) (bytes : List UInt8) : Reading Definition :=
  ofDocument strict (Document.ofOctets? bytes)

def ofText (strict : Bool) (text : String) : Reading Definition :=
  ofDocument strict (Document.ofString? text)

/-- Files by name, with what they hold. -/
abbrev Files := String → Option (List UInt8)

def ofFile (strict : Bool) (files : Files) (path : String) : Reading Definition := do
  Reported.report (.readingFile path)
  match files path with
  | some bytes => ofOctets strict bytes
  | none => throw .fileMissing

/-- A text is a document if its first character that is not blank opens a tag, and the name of a
file otherwise. -/
def isDocument (text : String) : Bool :=
  (Text.trimStartChars text.toList).head? = some '<'

def ofTextOrFile (strict : Bool) (files : Files) (text : String) : Reading Definition :=
  if isDocument text then ofText strict text else ofFile strict files text

end Definition
end ServiceDescription
