import ServiceDescription.Schema.Array
import ServiceDescription.Schema.Occurs
import ServiceDescription.Xml.Located
import ServiceDescription.Xml.QualifiedName

/-! Reading schema components from their declarations. The anonymous complex type in an element is
not read with the element: the element refers to it by a made-up name, and the body is handed on. -/
namespace ServiceDescription.Schema
open Xml

/-- The reference in an attribute, where it is present. -/
def reference? (l : Located) (attr space : String) : Option ExpandedName :=
  (l.attr? attr).map (QualifiedName.resolve l.scope space)

/-- The body of an anonymous complex type, with the name and the namespace it is to get. -/
structure InlineType where
  typeName : String
  body : Located
  space : String
  deriving Repr

namespace Element

def inlineBody? (l : Located) : Option Located := l.childNamed? "complexType" none

def inlineName (l : Located) : String := l.attr "name" ++ "Type"

def inlineTypes (l : Located) (space : String) : List InlineType :=
  (inlineBody? l).toList.map fun body => ⟨inlineName l, body, space⟩

/-- An inline body takes precedence over a type attribute. -/
def ofDeclaration (l : Located) (space : String) : Element :=
  let declared := (reference? l "type" space).getD ⟨"", ""⟩
  let inline := (inlineBody? l).isSome
  let type := if inline then ⟨space, inlineName l⟩ else declared
  let maxOccurs := Occurs.parse 1 (l.attr? "maxOccurs")
  { name := l.attr "name"
    space := space
    typeName := type.localName
    typeSpace := type.space
    isComplex := inline
    minOccurs := Occurs.parse 1 (l.attr? "minOccurs")
    maxOccurs := maxOccurs
    isArray := 1 < maxOccurs
    isNillable := ["true", "1"].contains (Text.trim (l.attr "nillable")) }

def events (l : Located) : List Event :=
  Occurs.events (l.attr? "minOccurs") ++ Occurs.events (l.attr? "maxOccurs")

end Element

namespace ComplexType

/-- The first derivation of a kind, in the complex content before the simple content. -/
def derivation? (l : Located) (kind : String) : Option Located :=
  ["complexContent", "simpleContent"].findSome? fun model =>
    (l.childNamed? model none).bind (·.childNamed? kind none)

/-- Where members are looked for: in the type itself, then in its extension and its restriction. -/
def memberHolders (l : Located) : List Located :=
  l :: ["extension", "restriction"].filterMap (derivation? l)

def memberGroup? (l : Located) : Option Located :=
  (memberHolders l).findSome? fun holder =>
    ["sequence", "all"].findSome? fun group => holder.childNamed? group none

def memberNodes (l : Located) : List Located :=
  match memberGroup? l with
  | some group => group.childrenNamed "element" none
  | none => []

def base? (l : Located) (space : String) : Option ExpandedName :=
  (derivation? l "extension").bind fun extension => reference? extension "base" space

/-- The type as declared, before it is looked at as an array. -/
def ofDeclaration (l : Located) (space name : String) : ComplexType :=
  let base := base? l space
  { name := name
    space := space
    elements := (memberNodes l).map (Element.ofDeclaration · space)
    baseName := base.map (·.localName)
    baseSpace := base.map (·.space) }

/-- `name` is the name that an inline body has been given. -/
def read (l : Located) (space : String) (name : Option String) : Reported ComplexType :=
  let declared := ofDeclaration l space (name.getD (l.attr "name"))
  ⟨declared.detectArray space,
    (memberNodes l).flatMap Element.events ++ declared.arrayEvents space⟩

def inlineTypes (l : Located) (space : String) : List InlineType :=
  (memberNodes l).flatMap (Element.inlineTypes · space)

end ComplexType

namespace SimpleType

/-- The first restriction at any depth gives the base and the listed values. -/
def ofDeclaration (l : Located) (space : String) : SimpleType :=
  match l.descendantNamed? "restriction" none with
  | none => { name := l.attr "name", space := space }
  | some restriction =>
    let base := (reference? restriction "base" space).getD ⟨"", ""⟩
    { name := l.attr "name"
      space := space
      baseName := base.localName
      baseSpace := base.space
      values := (restriction.childrenNamed "enumeration" none).filterMap (·.attr? "value") }

end SimpleType
end ServiceDescription.Schema
