/-! The components of a schema: element declarations, complex types and simple types. References to
types are kept as names. -/
namespace ServiceDescription.Schema

/-- An element declaration, at the top level or as a member of a complex type. -/
structure Element where
  name : String
  space : String := ""
  typeName : String := ""
  typeSpace : String := ""
  isComplex : Bool := false
  minOccurs : Int := 1
  maxOccurs : Int := 1
  isArray : Bool := false
  isNillable : Bool := false
  deriving DecidableEq, Repr

def Element.isOptional (e : Element) : Bool := e.minOccurs = 0

/-- A complex type, named or with the name made up for an inline body. The base is present when the
type extends another, the item when it is an array. -/
structure ComplexType where
  name : String
  space : String := ""
  elements : List Element := []
  baseName : Option String := none
  baseSpace : Option String := none
  isArray : Bool := false
  itemName : Option String := none
  itemSpace : Option String := none
  deriving DecidableEq, Repr

def ComplexType.element? (t : ComplexType) (name : String) : Option Element :=
  t.elements.find? (·.name = name)

/-- A simple type with the values it lists; a listed value may be repeated. -/
structure SimpleType where
  name : String
  space : String := ""
  baseName : String := ""
  baseSpace : String := ""
  values : List String := []
  deriving DecidableEq, Repr

def SimpleType.isEnumeration (t : SimpleType) : Bool := !t.values.isEmpty

end ServiceDescription.Schema
