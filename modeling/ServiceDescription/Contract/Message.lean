import ServiceDescription.Schema.Declaration

/-! Messages and their parts. A part refers to an element or to a type by resolved name; the catalog
is not consulted. -/
namespace ServiceDescription.Contract
open Xml Schema

structure Part where
  name : String
  elementName : Option String := none
  elementSpace : Option String := none
  typeName : Option String := none
  typeSpace : Option String := none
  deriving DecidableEq, Repr

structure Message where
  name : String
  parts : List Part := []
  deriving DecidableEq, Repr

namespace Part

def ofNode (l : Located) (space : String) : Part :=
  let element := reference? l "element" space
  let type := reference? l "type" space
  { name := l.attr "name"
    elementName := element.map (·.localName)
    elementSpace := element.map (·.space)
    typeName := type.map (·.localName)
    typeSpace := type.map (·.space) }

end Part

namespace Message

def part? (m : Message) (name : String) : Option Part := m.parts.find? (·.name = name)

def ofNode (l : Located) (space : String) : Message :=
  { name := l.attr "name"
    parts := (l.childrenNamed "part" none).map (Part.ofNode · space) }

end Message
end ServiceDescription.Contract
