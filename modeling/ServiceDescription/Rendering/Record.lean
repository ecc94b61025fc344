import ServiceDescription.Definition
import ServiceDescription.Rendering.Layout
import ServiceDescription.Rendering.Reader

/-! Everything that a service description holds as JSON records. Types are keyed by name, in the
order of the catalog; imported namespaces are sorted. -/
namespace ServiceDescription
open Json

namespace Schema

def Element.toJson (e : Element) : Json :=
  object [
    ("name", text e.name), ("namespace", text e.space),
    ("type_name", text e.typeName), ("type_namespace", text e.typeSpace),
    ("is_complex_type", bool e.isComplex),
    ("min_occurs", number e.minOccurs), ("max_occurs", number e.maxOccurs),
    ("is_optional", bool e.isOptional), ("is_array", bool e.isArray),
    ("is_nillable", bool e.isNillable)]

def ComplexType.toJson (t : ComplexType) : Json :=
  object [
    ("name", text t.name), ("namespace", text t.space),
    ("elements", ofList Element.toJson t.elements),
    ("base_type_name", ofOption text t.baseName),
    ("base_type_namespace", ofOption text t.baseSpace),
    ("is_array", bool t.isArray),
    ("array_item_type", ofOption text t.itemName),
    ("array_item_type_namespace", ofOption text t.itemSpace)]

def SimpleType.toJson (t : SimpleType) : Json :=
  object [
    ("name", text t.name), ("namespace", text t.space),
    ("base_type_name", text t.baseName), ("base_type_namespace", text t.baseSpace),
    ("enumeration_values", ofList text t.values)]

def Catalog.toJson (c : Catalog) : Json :=
  object [
    ("complex_types", object (c.complexTypes.map fun t => (t.name, t.toJson))),
    ("simple_types", object (c.simpleTypes.map fun t => (t.name, t.toJson))),
    ("elements", ofList Element.toJson c.elements),
    ("imported_namespaces", ofList text (c.importedNamespaces.mergeSort (· ≤ ·))),
    ("schemas", ofList text c.schemas)]

end Schema

namespace Contract

def Part.toJson (p : Part) : Json :=
  object [
    ("name", text p.name),
    ("element_name", ofOption text p.elementName),
    ("element_namespace", ofOption text p.elementSpace),
    ("type_name", ofOption text p.typeName),
    ("type_namespace", ofOption text p.typeSpace)]

def Message.toJson (m : Message) : Json :=
  object [("name", text m.name), ("parts", ofList Part.toJson m.parts)]

def OperationMessage.toJson (m : OperationMessage) : Json :=
  object [
    ("name", text m.name), ("message_name", text m.messageName),
    ("message_namespace", text m.messageSpace)]

def Operation.toJson (o : Operation) : Json :=
  object [
    ("name", text o.name),
    ("input", ofOption OperationMessage.toJson o.input),
    ("output", ofOption OperationMessage.toJson o.output),
    ("faults", ofList OperationMessage.toJson o.faults),
    ("documentation", text o.documentation), ("original_name", text o.declaredName)]

def Interface.toJson (i : Interface) : Json :=
  object [("name", text i.name), ("operations", ofList Operation.toJson i.operations)]

def Header.toJson (h : Header) : Json :=
  object [
    ("message_name", text h.messageName), ("message_namespace", text h.messageSpace),
    ("part", text h.part), ("use", text h.use),
    ("encoding_style", ofOption text h.encodingStyle), ("namespace", ofOption text h.space)]

def BoundMessage.toJson (m : BoundMessage) : Json :=
  object [
    ("name", text m.name), ("use", text m.use),
    ("encoding_style", ofOption text m.encodingStyle), ("namespace", ofOption text m.space),
    ("parts", ofOption (ofList text) m.parts), ("headers", ofList Header.toJson m.headers)]

def BoundOperation.toJson (o : BoundOperation) : Json :=
  object [
    ("name", text o.name), ("soap_action", text o.action), ("style", text o.style),
    ("input", ofOption BoundMessage.toJson o.input),
    ("output", ofOption BoundMessage.toJson o.output),
    ("faults", ofList BoundMessage.toJson o.faults), ("original_name", text o.declaredName)]

def Binding.toJson (b : Binding) : Json :=
  object [
    ("name", text b.name), ("interface_name", text b.interfaceName),
    ("interface_namespace", text b.interfaceSpace), ("transport", text b.transport),
    ("soap_version", text b.version.label), ("style", text b.style),
    ("operations", ofList BoundOperation.toJson b.operations)]

def Port.toJson (p : Port) : Json :=
  object [
    ("name", text p.name), ("binding_name", text p.bindingName),
    ("binding_namespace", text p.bindingSpace), ("location", text p.location)]

def Service.toJson (s : Service) : Json :=
  object [
    ("name", text s.name), ("documentation", text s.documentation),
    ("ports", ofList Port.toJson s.ports)]

end Contract

def Definition.toJson (d : Definition) : Json :=
  object [
    ("target_namespace", text d.targetNamespace),
    ("namespaces", object (d.namespaces.map fun n => (n.1, text n.2))),
    ("types", d.types.toJson),
    ("messages", ofList Contract.Message.toJson d.messages),
    ("interfaces", ofList Contract.Interface.toJson d.interfaces),
    ("bindings", ofList Contract.Binding.toJson d.bindings),
    ("services", ofList Contract.Service.toJson d.services)]

/-- The JSON text of a whole description. -/
def Definition.dump (d : Definition) : String := d.toJson.render

/-- A whole description as plain data: what its JSON text on one line is read as. -/
def Definition.asData? (d : Definition) : Option Json := parse? (Layout.line.render d.toJson)

end ServiceDescription
