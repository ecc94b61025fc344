import ServiceDescription.Contract.Interface
import ServiceDescription.Vocabulary

/-! Bindings: how the operations of an interface go over the wire. The protocol version follows from
the namespace of the protocol elements. Operations are paired with those of the interface by name,
so overloaded ones are renamed by the same rule on both sides. -/
namespace ServiceDescription.Contract
open Xml Schema

inductive SoapVersion where
  | soap11 | soap12
  deriving DecidableEq, Repr

def SoapVersion.label : SoapVersion → String
  | soap11 => "1.1"
  | soap12 => "1.2"

def defaultUse : String := "literal"

def defaultStyle : String := "document"

/-- A header of a message on the wire; it carries a part of some message. -/
structure Header where
  messageName : String := ""
  messageSpace : String := ""
  part : String := ""
  use : String := defaultUse
  encodingStyle : Option String := none
  space : Option String := none
  deriving DecidableEq, Repr

/-- The input, the output or a fault on the wire. To have no list of parts is not to have an empty
one. -/
structure BoundMessage where
  name : String := ""
  use : String := defaultUse
  encodingStyle : Option String := some ""
  space : Option String := some ""
  parts : Option (List String) := none
  headers : List Header := []
  deriving DecidableEq, Repr

structure BoundOperation where
  name : String
  action : String := ""
  style : String := ""
  input : Option BoundMessage := none
  output : Option BoundMessage := none
  faults : List BoundMessage := []
  declaredName : String
  deriving DecidableEq, Repr

structure Binding where
  name : String
  interfaceName : String := ""
  interfaceSpace : String := ""
  transport : String := ""
  version : SoapVersion := .soap11
  style : String := defaultStyle
  operations : List BoundOperation := []
  deriving DecidableEq, Repr

def soapNamespaces : List String := [Vocabulary.soap11, Vocabulary.soap12]

def soapChild? (l : Located) (name : String) : Option Located :=
  l.childNamed? name (some soapNamespaces)

def Header.ofNode (l : Located) (space : String) : Header :=
  let message := (reference? l "message" space).getD ⟨"", ""⟩
  { messageName := message.localName
    messageSpace := message.space
    part := l.attr "part"
    use := (l.attr? "use").getD defaultUse
    encodingStyle := l.attr? "encodingStyle"
    space := l.attr? "namespace" }

/-- Inputs and outputs are wired by a body element, faults by a fault element. -/
def BoundMessage.ofNode (l : Located) (space : String) : BoundMessage :=
  let headers := (l.childrenNamed "header" (some soapNamespaces)).map (Header.ofNode · space)
  match (soapChild? l "body").or (soapChild? l "fault") with
  | some body =>
    { name := l.attr "name"
      use := (body.attr? "use").getD defaultUse
      encodingStyle := some (body.attr "encodingStyle")
      space := some (body.attr "namespace")
      parts := (body.attr? "parts").map Text.words
      headers := headers }
  | none => { name := l.attr "name", headers := headers }

/-- `name` is the name that the operation has been given. -/
def BoundOperation.ofNode (l : Located) (name : Option String) (space : String) :
    BoundOperation :=
  let protocol := soapChild? l "operation"
  { name := name.getD (l.attr "name")
    action := (protocol.map (·.attr "soapAction")).getD ""
    style := (protocol.map (·.attr "style")).getD ""
    input := (l.childNamed? "input" none).map (BoundMessage.ofNode · space)
    output := (l.childNamed? "output" none).map (BoundMessage.ofNode · space)
    faults := (l.childrenNamed "fault" none).map (BoundMessage.ofNode · space)
    declaredName := l.attr "name" }

namespace Binding

def operation? (b : Binding) (name : String) : Option BoundOperation :=
  b.operations.find? (·.name = name)

/-- The style of an operation; one that declares none has the style of the binding. -/
def styleFor (b : Binding) (o : BoundOperation) : String :=
  if o.style = "" then b.style else o.style

def ofNode (l : Located) (space : String) : Binding :=
  let interface := (reference? l "type" space).getD ⟨"", ""⟩
  let protocol := soapChild? l "binding"
  { name := l.attr "name"
    interfaceName := interface.localName
    interfaceSpace := interface.space
    transport := (protocol.map (·.attr "transport")).getD ""
    version := if protocol.any (·.space = Vocabulary.soap12) then .soap12 else .soap11
    style := (protocol.bind (·.attr? "style")).getD defaultStyle
    operations := List.zipWith (fun node name => BoundOperation.ofNode node (some name) space)
      (l.childrenNamed "operation" none) (Overload.disambiguate (declaredOperations l)) }

def read (l : Located) (space : String) : Reported Binding :=
  let missing : List Event :=
    if (soapChild? l "binding").isNone then [.bindingWithoutProtocol (l.attr "name")] else []
  ⟨ofNode l space, missing ++ Overload.events (declaredOperations l)⟩

end Binding
end ServiceDescription.Contract
