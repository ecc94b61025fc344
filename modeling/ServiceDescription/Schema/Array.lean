import ServiceDescription.Journal
import ServiceDescription.Schema.Component

/-! Arrays among the complex types. A type named ArrayOf followed by an item name is an array when
it has exactly one member, which then repeats and has the item type unless it declares another. Any
other type is an array of its first typed member that repeats. -/
namespace ServiceDescription.Schema

/-- The item that a type name names, letter case of the first seven letters aside. The item is one
line; a line end after it does not belong to it. -/
def namedItem? (name : String) : Option String :=
  let s := name.toList
  if (s.take 7).map Char.toLower = "arrayof".toList then
    let rest := s.drop 7
    let item := if rest.getLast? = some '\n' then rest.dropLast else rest
    if item.isEmpty || item.contains '\n' then none else some (String.ofList item)
  else none

namespace ComplexType

def withItem (t : ComplexType) (name space : String) : ComplexType :=
  { t with isArray := true, itemName := some name, itemSpace := some space }

end ComplexType

/-- The only member of a named array. -/
def Element.asItem (e : Element) (item space : String) : Element :=
  if e.typeName = "" then { e with isArray := true, typeName := item, typeSpace := space }
  else { e with isArray := true }

namespace ComplexType

/-- The type as an array, when it is one; `space` is the namespace of the schema. -/
def asArray? (t : ComplexType) (space : String) : Option ComplexType :=
  match namedItem? t.name with
  | some item =>
    match t.elements with
    | [e] =>
      let e := e.asItem item space
      some ({ t with elements := [e] }.withItem e.typeName e.typeSpace)
    | _ => none
  | none =>
    (t.elements.find? fun e => e.isArray && e.typeName ≠ "").map fun e =>
      t.withItem e.typeName e.typeSpace

def detectArray (t : ComplexType) (space : String) : ComplexType := (t.asArray? space).getD t

def arrayEvents (t : ComplexType) (space : String) : List Event :=
  match t.asArray? space with
  | some array => [.arrayRecognised t.name (array.itemName.getD "")]
  | none =>
    if (namedItem? t.name).isSome then [.recordNamedArray t.name t.elements.length] else []

end ComplexType
end ServiceDescription.Schema
