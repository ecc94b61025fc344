import ServiceDescription.Datatype.ValueType
import ServiceDescription.Xml.Located

/-! The schema that is checked as the place where references are resolved. A reference reaches the
declarations of the schema itself and the built-in types; the namespaces that the schema imports may
be named, but nothing in them is known. -/
namespace ServiceDescription.Schema.Strict
open Xml Datatype

/-- A name with its namespace, if it is in one. -/
structure Reference where
  space : Option String
  name : String
  deriving DecidableEq, Repr

structure Environment where
  root : Located
  /-- More steps than any chain of declarations has that does not come back to itself. -/
  depth : Nat
  deriving Repr

/-- What a reference to a type reaches. -/
inductive TypeTarget where
  | anyType
  | builtIn (t : BuiltIn)
  | simple (l : Located)
  | complex (l : Located)
  deriving Repr

/-- The children of an element with some name of the vocabulary. -/
def parts (l : Located) (name : String) : List Located :=
  l.childrenNamed name (some [Vocabulary.xsd])

def part? (l : Located) (name : String) : Option Located := (parts l name).head?

/-- The children with one of some names, in order. -/
def partsOf (l : Located) (names : List String) : List Located :=
  l.children.filter fun c => c.space = Vocabulary.xsd && names.contains c.localName

namespace Reference

/-- The reference that an attribute value makes. Blanks around the whole are allowed, but they
belong to the parts of the name; a name without a prefix is in the default namespace. -/
def ofText? (scope : Scope) (raw : String) : Option Reference :=
  if ClassicName.isQualified (ClassicName.trim raw.toList) then
    let (pre, localName) := Literal.parts raw.toList
    if raw.toList.contains ':' then
      (Literal.space? scope pre).map fun space => ⟨space, localName⟩
    else some ⟨scope.namespace? "", raw⟩
  else none

end Reference

namespace Environment

def of (root : Located) : Environment := ⟨root, 2 * root.weight + 2⟩

def target (e : Environment) : Option String := e.root.attr? "targetNamespace"

def imports (e : Environment) : List (Option String) :=
  (parts e.root "import").map (·.attr? "namespace")

/-- A reference may name the vocabulary, the schema's own namespace and those it imports. -/
def allows (e : Environment) (r : Reference) : Bool :=
  r.space = e.target || r.space = some Vocabulary.xsd || e.imports.contains r.space

/-- The reference that an attribute of an element makes, if it may be made. -/
def reference? (e : Environment) (l : Located) (name : String) : Option Reference :=
  ((l.attr? name).bind (Reference.ofText? l.scope)).filter e.allows

/-- The declaration of some kind that a reference reaches. -/
def declared? (e : Environment) (kind : String) (r : Reference) : Option Located :=
  if r.space = e.target then
    (parts e.root kind).find? (·.attr? "name" = some r.name)
  else none

def type? (e : Environment) (r : Reference) : Option TypeTarget :=
  let builtIn? :=
    if r.space = some Vocabulary.xsd then
      if r.name = "anyType" then some .anyType else (BuiltIn.ofName? r.name).map .builtIn
    else none
  builtIn?.or ((((e.declared? "simpleType" r).map .simple)).or
    ((e.declared? "complexType" r).map .complex))

/-- The type that an attribute names. -/
def typeNamed? (e : Environment) (l : Located) (name : String) : Option TypeTarget :=
  (e.reference? l name).bind e.type?

/-- The declaration of some kind that an attribute names. -/
def declaredNamed? (e : Environment) (kind : String) (l : Located) (name : String) :
    Option Located :=
  (e.reference? l name).bind (e.declared? kind)

/-- The notations that are declared, and the prefixes at an element. -/
def around (e : Environment) (l : Located) : Surroundings where
  scope := l.scope
  notations := (parts e.root "notation").filterMap fun n =>
    (n.attr? "name").map (e.target, ·)

end Environment

/-- The words of an attribute value that is a list. -/
def listed (text : String) : List String :=
  (Literal.words (WhiteSpace.collapse.apply text.toList)).map String.ofList

/-- Methods of derivation that a declaration excludes: those that it lists, or all. Without the
attribute, what the schema says for all its declarations holds. -/
def excluded (e : Environment) (l : Located) (name fallback : String) : List String :=
  let all := ["extension", "restriction", "list", "union", "substitution"]
  let read (text : String) := if text = "#all" then all else listed text
  match l.attr? name with
  | some text => read text
  | none => read (e.root.attr fallback)

/-- How often a particle may come. -/
structure Range where
  least : Nat
  most : Option Nat
  deriving DecidableEq, Repr

/-- The number that stands for no upper bound. -/
def unbounded : Nat := 1073741824

/-- The number that decimal digits with blanks around them stand for. -/
def natural? (raw : String) : Option Nat :=
  let s := ClassicName.trim raw.toList
  if s.isEmpty || !s.all Char.isDigit then none else some (Decimal.ofDigits s)

/-- The upper bound that a text stands for. -/
def maximum? (raw : String) : Option Nat :=
  if raw = "unbounded" then some unbounded else (natural? raw).filter (· ≤ unbounded)

namespace Range

def once : Range := ⟨1, some 1⟩

/-- The range that the attributes of an element give. -/
def of (l : Located) : Range :=
  let least := ((l.attr? "minOccurs").bind natural?).getD 1
  let most := ((l.attr? "maxOccurs").bind maximum?).getD 1
  ⟨least, if most = unbounded then none else some most⟩

/-- A particle that never comes. -/
def isVoid (r : Range) : Bool := r.least = 0 && r.most = some 0

/-- A particle may come, and not less often than it has to. -/
def isSound (r : Range) : Bool :=
  r.isVoid || (r.most ≠ some 0 && r.least ≤ r.most.getD unbounded)

end Range
end ServiceDescription.Schema.Strict
