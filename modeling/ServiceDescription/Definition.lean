import ServiceDescription.Contract.Binding
import ServiceDescription.Contract.Message
import ServiceDescription.Contract.Service
import ServiceDescription.Schema.Section

/-! A whole service description: the types first, read and frozen, then messages, interfaces,
bindings and services in document order. References between them are names; looking them up is left
to whoever uses the description. -/
namespace ServiceDescription
open Xml Schema Contract

structure Definition where
  targetNamespace : String := ""
  namespaces : List (String × String) := []
  types : Catalog := {}
  messages : List Message := []
  interfaces : List Interface := []
  bindings : List Binding := []
  services : List Service := []
  deriving DecidableEq, Repr

namespace Definition

/-- Everything of a description lives in its target namespace, so a reference into another one finds
nothing. -/
def owns (d : Definition) (space : Option String) : Bool := space.all (· = d.targetNamespace)

def message? (d : Definition) (name : String) (space : Option String) : Option Message :=
  if d.owns space then d.messages.find? (·.name = name) else none

def interface? (d : Definition) (name : String) (space : Option String) : Option Interface :=
  if d.owns space then d.interfaces.find? (·.name = name) else none

def binding? (d : Definition) (name : String) (space : Option String) : Option Binding :=
  if d.owns space then d.bindings.find? (·.name = name) else none

def service? (d : Definition) (name : String) : Option Service :=
  d.services.find? (·.name = name)

def interfaceOf? (d : Definition) (b : Binding) : Option Interface :=
  d.interface? b.interfaceName (some b.interfaceSpace)

/-- A description read from a definitions element. -/
def read (strict : Bool) (root : Located) : Catalog.Attempt Definition := do
  let space := root.attr "targetNamespace"
  let namespaces := root.scope.visible
  Reported.report (.definitionStarted space namespaces.length)
  let types ← Catalog.empty.addTypes strict (root.childNamed? "types" none)
  let types := types.freeze
  Reported.report
    (.typesRead types.complexTypes.length types.simpleTypes.length types.elements.length)
  let messages := (root.childrenNamed "message" none).map (Message.ofNode · space)
  let interfaces ←
    liftM (Reported.each (Interface.read · space) (root.childrenNamed "portType" none))
  let bindings ← liftM (Reported.each (Binding.read · space) (root.childrenNamed "binding" none))
  let services := (root.childrenNamed "service" none).map (Service.ofNode · space)
  Reported.report
    (.definitionRead messages.length interfaces.length bindings.length services.length)
  return ⟨space, namespaces, types, messages, interfaces, bindings, services⟩

end Definition
end ServiceDescription
