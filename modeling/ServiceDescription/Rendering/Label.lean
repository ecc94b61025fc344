import ServiceDescription.Definition

/-! Short labels of components for messages and debugging. -/
namespace ServiceDescription

namespace Label

def ofBool (b : Bool) : String := if b then "True" else "False"

def ofOption (s : Option String) : String :=
  match s with
  | some s => Text.quoted s
  | none => "None"

end Label

open Label

namespace Schema

def Element.label (e : Element) : String :=
  "Element(name=" ++ Text.quoted e.name ++ ", type=" ++ Text.quoted e.typeName ++
    ", is_array=" ++ ofBool e.isArray ++ ")"

def ComplexType.label (t : ComplexType) : String :=
  "ComplexType(name=" ++ Text.quoted t.name ++ ", elements=" ++ toString t.elements.length ++
    ", is_array=" ++ ofBool t.isArray ++ ")"

def SimpleType.label (t : SimpleType) : String :=
  "SimpleType(name=" ++ Text.quoted t.name ++ ", values=" ++ Text.quotedList t.values ++ ")"

def InlineType.label (r : InlineType) : String :=
  "InlineTypeRequest(type_name=" ++ Text.quoted r.typeName ++ ", namespace=" ++
    Text.quoted r.space ++ ")"

end Schema

namespace Contract

def Part.label (p : Part) : String :=
  "MessagePart(name=" ++ Text.quoted p.name ++ ", element=" ++ ofOption p.elementName ++
    ", type=" ++ ofOption p.typeName ++ ")"

def OperationMessage.label (m : OperationMessage) : String :=
  "OperationMessage(name=" ++ Text.quoted m.name ++ ", message=" ++
    Text.quoted m.messageName ++ ")"

def Operation.label (o : Operation) : String :=
  "Operation(name=" ++ Text.quoted o.name ++ ", original_name=" ++
    Text.quoted o.declaredName ++ ")"

def BoundOperation.label (o : BoundOperation) : String :=
  "BindingOperation(name=" ++ Text.quoted o.name ++ ", soap_action=" ++ Text.quoted o.action ++
    ")"

end Contract
end ServiceDescription
