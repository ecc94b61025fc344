import ServiceDescription.Overload
import ServiceDescription.Schema.Declaration

/-! Interfaces: the abstract operations of a service. Overloaded operations are renamed, and every
operation remembers the name it was declared with. -/
namespace ServiceDescription.Contract
open Xml Schema

/-- The input, the output or a fault of an abstract operation. -/
structure OperationMessage where
  name : String := ""
  messageName : String := ""
  messageSpace : String := ""
  deriving DecidableEq, Repr

structure Operation where
  name : String
  input : Option OperationMessage := none
  output : Option OperationMessage := none
  faults : List OperationMessage := []
  documentation : String := ""
  declaredName : String
  deriving DecidableEq, Repr

structure Interface where
  name : String
  operations : List Operation := []
  deriving DecidableEq, Repr

def OperationMessage.ofNode (l : Located) (space : String) : OperationMessage :=
  let message := (reference? l "message" space).getD ⟨"", ""⟩
  ⟨l.attr "name", message.localName, message.space⟩

/-- `name` is the name that the operation has been given. -/
def Operation.ofNode (l : Located) (name : Option String) (space : String) : Operation :=
  { name := name.getD (l.attr "name")
    input := (l.childNamed? "input" none).map (OperationMessage.ofNode · space)
    output := (l.childNamed? "output" none).map (OperationMessage.ofNode · space)
    faults := (l.childrenNamed "fault" none).map (OperationMessage.ofNode · space)
    documentation := l.documentation
    declaredName := l.attr "name" }

/-- The names that the operations under a node declare. -/
def declaredOperations (l : Located) : List String :=
  (l.childrenNamed "operation" none).map (·.attr "name")

namespace Interface

def operation? (i : Interface) (name : String) : Option Operation :=
  i.operations.find? (·.name = name)

def ofNode (l : Located) (space : String) : Interface :=
  { name := l.attr "name"
    operations := List.zipWith (fun node name => Operation.ofNode node (some name) space)
      (l.childrenNamed "operation" none) (Overload.disambiguate (declaredOperations l)) }

def read (l : Located) (space : String) : Reported Interface :=
  ⟨ofNode l space, Overload.events (declaredOperations l)⟩

end Interface
end ServiceDescription.Contract
