import ServiceDescription.Definition

/-! A summary for people: counts first, then types with their members, operations, bindings and
ports, a line each. -/
namespace ServiceDescription
open Schema Contract

namespace Summary

def element (e : Element) : String :=
  "    " ++ e.name ++ ": " ++ e.typeName ++ " [" ++ Text.decimal e.minOccurs ++ ".." ++
    Occurs.display e.maxOccurs ++ "]"

def complexType (t : ComplexType) : List String :=
  let array := if t.isArray then " (array of " ++ t.itemName.getD "None" ++ ")" else ""
  ("  type " ++ t.name ++ array) :: t.elements.map element

def simpleType (t : SimpleType) : List String :=
  if t.isEnumeration then ["  enum " ++ t.name ++ ": " ++ ", ".intercalate t.values] else []

def message (m : Option OperationMessage) : String :=
  match m with
  | some m => m.messageName
  | none => "-"

def interface (i : Interface) : List String :=
  ("Port type " ++ i.name) :: i.operations.map fun o =>
    "  " ++ o.name ++ "(" ++ message o.input ++ ") -> " ++ message o.output

def binding (b : Binding) : String :=
  "Binding " ++ b.name ++ " -> " ++ b.interfaceName ++ " (SOAP " ++ b.version.label ++ ", " ++
    b.style ++ ")"

def orElse (s fallback : String) : String := if s = "" then fallback else s

def service (s : Service) : List String :=
  ("Service " ++ s.name) :: s.ports.map fun p =>
    "  port " ++ p.name ++ " via " ++ p.bindingName ++ " at " ++ orElse p.location "(no address)"

def found (n : Nat) (what : String) : String := "Found " ++ Text.decimal n ++ " " ++ what

def lines (d : Definition) : List String :=
  let operations := (d.interfaces.flatMap (·.operations)).length
  ["Target namespace: " ++ orElse d.targetNamespace "(none)",
    found d.interfaces.length ("port types with " ++ Text.decimal operations ++ " operations"),
    found d.types.complexTypes.length "complex types",
    found d.types.simpleTypes.length "simple types",
    found d.types.elements.length "elements"] ++
    d.types.complexTypes.flatMap complexType ++ d.types.simpleTypes.flatMap simpleType ++
    d.interfaces.flatMap interface ++ d.bindings.map binding ++ d.services.flatMap service

end Summary

def Definition.summary (d : Definition) : String := "\n".intercalate (Summary.lines d)

end ServiceDescription
