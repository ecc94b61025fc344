import ServiceDescription.Journal
import ServiceDescription.Schema.Component

/-! The catalog of types: a store keyed by name in which the first entry of a name stays, with the
top-level elements, the imported namespaces and the schemas that passed the strict check. Freezing
closes it for good. Work on a catalog changes it in place, and what was done before a refusal stays;
seen from outside it is an attempt, which gives no catalog when it is refused. -/
namespace ServiceDescription.Schema

/-- One thing that a schema declares. A schema that passed the strict check has a label. -/
inductive Declaration where
  | schema (label : String)
  | importedNamespace (uri : String)
  | complexType (type : ComplexType)
  | simpleType (type : SimpleType)
  | element (declared : Element)
  deriving DecidableEq, Repr

structure Catalog where
  complexTypes : List ComplexType := []
  simpleTypes : List SimpleType := []
  elements : List Element := []
  importedNamespaces : List String := []
  schemas : List String := []
  frozen : Bool := false
  deriving DecidableEq, Repr

namespace Catalog

inductive Error where
  | frozen
  deriving DecidableEq, Repr

def Error.message : Error → String
  | frozen =>
    "TypeCatalog is frozen; types can only be registered while the types section is built"

/-- Work that changes a catalog as it goes and may be refused on the way. -/
abbrev InPlace := ExceptT Error (StateT Catalog Reported)

/-- Work on a catalog that may be refused, and then leaves nothing. -/
abbrev Attempt := ExceptT Error Reported

namespace InPlace
variable {α : Type}

def run (x : InPlace α) (c : Catalog) : Reported (Except Error α × Catalog) :=
  StateT.run (ExceptT.run x) c

/-- The work as an attempt, which gives the catalog only where nothing is refused. -/
def attempted (x : InPlace α) (c : Catalog) : Attempt (Catalog × α) :=
  let r := x.run c
  ExceptT.mk ⟨r.value.1.map (r.value.2, ·), r.events⟩

end InPlace

/-- The catalog after some work, unless the work is refused. -/
def attempt (c : Catalog) (x : InPlace Unit) : Attempt Catalog := (·.1) <$> x.attempted c

def empty : Catalog := {}

def freeze (c : Catalog) : Catalog := { c with frozen := true }

def complexType? (c : Catalog) (name : String) (space : Option String) : Option ComplexType :=
  (c.complexTypes.find? (·.name = name)).filter fun t => space.all (t.space = ·)

def simpleType? (c : Catalog) (name : String) (space : Option String) : Option SimpleType :=
  (c.simpleTypes.find? (·.name = name)).filter fun t => space.all (t.space = ·)

def element? (c : Catalog) (name : String) (space : Option String) : Option Element :=
  c.elements.find? fun e => e.name = name && space.all (e.space = ·)

def hasComplexType (c : Catalog) (name : String) : Bool := c.complexTypes.any (·.name = name)

def hasSimpleType (c : Catalog) (name : String) : Bool := c.simpleTypes.any (·.name = name)

/-- Whether a declaration is kept; a type is dropped when its name is taken. -/
def keeps (c : Catalog) : Declaration → Bool
  | .complexType t => !c.hasComplexType t.name
  | .simpleType t => !c.hasSimpleType t.name
  | _ => true

/-- The catalog with one more declaration, whether it is frozen or not. -/
def insert (c : Catalog) : Declaration → Catalog
  | .schema label => { c with schemas := c.schemas ++ [label] }
  | .importedNamespace uri =>
    if c.importedNamespaces.contains uri then c
    else { c with importedNamespaces := c.importedNamespaces ++ [uri] }
  | .complexType t =>
    if c.hasComplexType t.name then c else { c with complexTypes := c.complexTypes ++ [t] }
  | .simpleType t =>
    if c.hasSimpleType t.name then c else { c with simpleTypes := c.simpleTypes ++ [t] }
  | .element e => { c with elements := c.elements ++ [e] }

@[simp] theorem frozen_insert (c : Catalog) (d : Declaration) : (c.insert d).frozen = c.frozen := by
  cases d <;> simp only [insert] <;> split <;> rfl

def insertEvents (c : Catalog) : Declaration → List Event
  | .complexType t => if c.hasComplexType t.name then [.duplicateComplexType t.name] else []
  | .simpleType t => if c.hasSimpleType t.name then [.duplicateSimpleType t.name] else []
  | _ => []

namespace InPlace

/-- A frozen catalog takes no declaration, not even one that it would drop. -/
def add (d : Declaration) : InPlace Unit := do
  let c ← get
  if c.frozen then throw .frozen
  else do
    Reported.reportAll (c.insertEvents d)
    modify (·.insert d)

/-- Declarations are added as they are read, up to the first refusal. -/
def addAll : List (Reported Declaration) → InPlace Unit
  | [] => return ()
  | d :: rest => do
    add (← liftM d)
    addAll rest

end InPlace

def add (c : Catalog) (d : Declaration) : Attempt Catalog := c.attempt (InPlace.add d)

def addAll (c : Catalog) (ds : List (Reported Declaration)) : Attempt Catalog :=
  c.attempt (InPlace.addAll ds)

end Catalog
end ServiceDescription.Schema
