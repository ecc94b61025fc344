import ServiceDescription.Schema.Promotion
import ServiceDescription.Schema.Strict.Check

/-! The types section of a service description. Every schema is read first: the namespaces it
imports, its complex types, its simple types and its elements, in this order. Then the inline types
found on the way are promoted, so that declared types take their names before them, and last the
elements that refer to a complex type of the catalog are marked. -/
namespace ServiceDescription.Schema
open Xml

def targetNamespace (l : Located) : String := l.attr "targetNamespace"

namespace Fragment

/-- The declarations of a schema in the order in which they are read. -/
def declarations (l : Located) : List (Reported Declaration) :=
  let space := targetNamespace l
  let imports := (l.childrenNamed "import" none).filterMap fun i =>
    if i.attr "namespace" = "" then none
    else some ⟨.importedNamespace (i.attr "namespace"), []⟩
  let complexTypes := (l.childrenNamed "complexType" none).map fun t =>
    Declaration.complexType <$> ComplexType.read t space none
  let simpleTypes := (l.childrenNamed "simpleType" none).map fun t =>
    ⟨.simpleType (SimpleType.ofDeclaration t space), []⟩
  let elements := (l.childrenNamed "element" none).map fun e =>
    ⟨.element (Element.ofDeclaration e space), Element.events e⟩
  imports ++ complexTypes ++ simpleTypes ++ elements

/-- The inline types of the complex types and of the elements of a schema. -/
def inlineTypes (l : Located) : List InlineType :=
  let space := targetNamespace l
  (l.childrenNamed "complexType" none).flatMap (ComplexType.inlineTypes · space) ++
    (l.childrenNamed "element" none).flatMap (Element.inlineTypes · space)

/-- The label of a schema that passed the strict check. -/
def label : String := "<XMLSchema>"

/-- The strict check never stops the reading. -/
def check (l : Located) : Reported Bool :=
  if Strict.passes l then ⟨true, []⟩ else ⟨false, [.schemaRejected (targetNamespace l)]⟩

end Fragment

namespace Catalog

/-- An element is marked when it refers to a complex type of the catalog by name and namespace. -/
def mark (c : Catalog) (e : Element) : Element :=
  if e.typeName ≠ "" && (c.complexType? e.typeName (some e.typeSpace)).isSome then
    { e with isComplex := true }
  else e

def markReferences (c : Catalog) : Catalog :=
  { c with
    elements := c.elements.map c.mark
    complexTypes := c.complexTypes.map fun t => { t with elements := t.elements.map c.mark } }

def schemasOf (types : Option Located) : List Located :=
  match types with
  | some l => l.childrenNamed "schema" none
  | none => []

namespace InPlace

def addSchema (strict : Bool) (l : Located) : InPlace Unit := do
  Reported.report (.schemaStarted (targetNamespace l))
  let passed ← if strict then liftM (Fragment.check l) else pure false
  if passed then add (.schema Fragment.label)
  addAll (Fragment.declarations l)

def addSchemas (strict : Bool) : List Located → InPlace Unit
  | [] => return ()
  | l :: rest => do
    addSchema strict l
    addSchemas strict rest

/-- A whole types section, if there is one, read into a catalog that stays open. -/
def addTypes (strict : Bool) (types : Option Located) : InPlace Unit := do
  addSchemas strict (schemasOf types)
  let _ ← promote ((schemasOf types).flatMap Fragment.inlineTypes)
  modify markReferences

end InPlace

def addSchema (c : Catalog) (strict : Bool) (l : Located) : Attempt Catalog :=
  c.attempt (InPlace.addSchema strict l)

def addSchemas (c : Catalog) (strict : Bool) (ls : List Located) : Attempt Catalog :=
  c.attempt (InPlace.addSchemas strict ls)

def addTypes (c : Catalog) (strict : Bool) (types : Option Located) : Attempt Catalog :=
  c.attempt (InPlace.addTypes strict types)

end Catalog
end ServiceDescription.Schema
