import ServiceDescription.Schema.Strict.AttributeUse
import ServiceDescription.Schema.Strict.Particle

/-! Type definitions: simple types, and complex types with their content, their attributes and what
they are derived from. A definition is there only if the type is derived as it may be. -/
namespace ServiceDescription.Schema.Strict
open Xml Datatype

inductive Method where
  | extension
  | restriction
  deriving DecidableEq, Repr

namespace Method

def name : Method → String
  | extension => "extension"
  | restriction => "restriction"

end Method

/-- What stands between the tags of an element. -/
inductive Content where
  | empty
  | elements (isMixed : Bool) (particle : Particle)
  | value (t : ValueType)
  deriving Repr

structure ComplexDefinition where
  place : Place
  method : Method
  content : Content
  attributes : Attributes
  final : List String
  block : List String
  deriving Repr

inductive Definition where
  | simple (t : ValueType)
  | anyType
  | complex (c : ComplexDefinition) (base : Definition)
  deriving Repr

namespace Content

/-- A sequence without members. -/
def nothing : Particle := .group .once .sequence []

def isAll : Particle → Bool
  | .group _ .all _ => true
  | _ => false

/-- Content that is not empty, though no element may stand in it, has an empty sequence. -/
def ofParticle (isMixed : Bool) : Option Particle → Content
  | none => if isMixed then elements true nothing else empty
  | some p =>
    match p with
    | .group range order members =>
      if members.isEmpty && (order ≠ .choice || range.least = 0) then
        if isMixed then elements true (if order = .sequence then p else nothing) else empty
      else elements isMixed p
    | _ => elements isMixed p

def isEmptiable : Content → Bool
  | empty => true
  | elements _ p => p.isEmptiable
  | value _ => false

/-- Whether content consists of an empty sequence. -/
def isHollow : Content → Bool
  | elements _ (.group _ .sequence []) => true
  | _ => false

/-- The content of a base with more content behind it. Groups of all are not put behind one
another, and both are mixed or both are not. -/
def extend? (base own : Content) : Option Content :=
  match base, own with
  | b, empty => some b
  | empty, c => some c
  | elements isMixed p, elements isOwnMixed q =>
    if isMixed ≠ isOwnMixed then none
    else if own.isHollow then some (elements isMixed (.group .once .sequence [p]))
    else if isAll p || isAll q then none
    else some (elements isMixed (.group .once .sequence [p, q]))
  | _, _ => none

/-- Whether content may restrict that of a base. Of elements, nothing but the text between them is
compared. -/
def mayRestrict (base own : Content) : Bool :=
  match own, base with
  | value t, value b => t.isDerivedFrom b
  | value _, elements isMixed p => isMixed && p.isEmptiable
  | value _, empty => false
  | empty, value _ => false
  | empty, b => b.isEmptiable
  | elements isMixed _, elements isBaseMixed _ => !isMixed || isBaseMixed
  | elements isMixed _, _ => !isMixed

end Content

namespace Definition

/-- The content of the ur-type: any elements with any text between them. -/
def anyContent : Content :=
  .elements true (.group .once .sequence [.any ⟨0, none⟩ Wildcard.anything])

def content : Definition → Content
  | simple t => .value t
  | anyType => anyContent
  | complex c _ => c.content

def attributes : Definition → Attributes
  | simple _ => ⟨[], [], none⟩
  | anyType => ⟨[], [], some Wildcard.anything⟩
  | complex c _ => c.attributes

def final : Definition → List String
  | simple t => t.final
  | anyType => []
  | complex c _ => c.final

def isUrType : Definition → Bool
  | anyType => true
  | _ => false

def isComplex : Definition → Bool
  | simple _ => false
  | _ => true

/-- Types are the same if they are declared at the same place. -/
def isSame : Definition → Definition → Bool
  | simple s, simple t => s.isSame t
  | anyType, anyType => true
  | complex c _, complex d _ => c.place = d.place
  | _, _ => false

/-- The attributes of a type derived from `base`. -/
def attributes? (base : Definition) (method : Method) (own : Attributes) : Option Attributes :=
  match method with
  | .extension => Attributes.extend? base.attributes own
  | .restriction =>
    let all := Attributes.restrict base.attributes own
    if Attributes.mayRestrict base.attributes all base.isUrType then some all else none

/-- A complex type derived from `base`, unless that is excluded. Where attributes come together, no
name comes twice. -/
def derive? (e : Environment) (l : Located) (base : Definition) (method : Method)
    (own : Attributes) (content : Content) : Option Definition := do
  if base.final.contains method.name then none
  let attributes ← base.attributes? method own
  if !AttributeUse.areDistinct attributes.uses then none
  let block := if (l.attr? "name").isSome then excluded e l "block" "blockDefault" else []
  return .complex ⟨l.path, method, content, attributes, finalOf e l, block⟩ base

/-- The particle that stands in a type or in its derivation. -/
def particle? (e : Environment) (l : Located) : Option (Option Particle) :=
  match (partsOf l ["group", "all", "choice", "sequence"]).head? with
  | none => some none
  | some p => Particle.of? e p

def complexContent? (e : Environment) (l body : Located) (isMixed : Bool) (base : Definition)
    (method : Method) : Option Definition := do
  let own := Content.ofParticle isMixed (← particle? e body)
  let content ←
    match method with
    | .extension => Content.extend? base.content own
    | .restriction =>
      if base.isUrType || Content.mayRestrict base.content own then some own else none
  derive? e l base method (← Attributes.of? e e.depth body) content

/-- The simple type that a restriction of content makes of another, which may stand in it. -/
def restrictedValue? (e : Environment) (l d : Located) (base : Definition) : Option ValueType :=
  let inner? := (part? d "simpleType").map fun t => simple? e (.simple t)
  match base.content with
  | .value b => do
    let within ← inner?.getD (some b)
    let t := ValueType.restriction l.path [] within (facetsOf d)
    if t.isSound (e.around d) then some t else none
  | .elements isMixed p => if isMixed && p.isEmptiable then inner?.join else none
  | .empty => none

def simpleContent? (e : Environment) (l d : Located) (base : Definition) (method : Method) :
    Option Definition := do
  let content ←
    match method with
    | .extension =>
      match base.content with
      | .value t => some (Content.value t)
      | _ => none
    | .restriction => if base.isComplex then (restrictedValue? e l d base).map .value else none
  if method = .restriction && !base.isUrType && !Content.mayRestrict base.content content then none
  derive? e l base method (← Attributes.of? e e.depth d) content

/-- The element that says what a complex type is derived from, if it has content of its own. -/
def derivation? (content : Located) : Option (Method × Located) :=
  ((part? content "extension").map (Method.extension, ·)).or
    ((part? content "restriction").map (Method.restriction, ·))

/-- The definition of a type with everything it is derived from, at most `n` steps away. A complex
type without a derivation restricts the ur-type. -/
def in? (e : Environment) : Nat → TypeTarget → Option Definition
  | 0, _ => none
  | _, .anyType => some .anyType
  | _, .builtIn t => some (.simple (.builtIn t))
  | _, .simple l => (simple? e (.simple l)).map .simple
  | n + 1, .complex l =>
    let isMixed (c : Located) := Particle.isTrue (c.attr? "mixed")
    match part? l "complexContent", part? l "simpleContent" with
    | some c, _ => do
      let (method, d) ← derivation? c
      let base ← (← e.typeNamed? d "base") |> in? e n
      if !base.isComplex then none
      complexContent? e l d (isMixed l || isMixed c) base method
    | none, some c => do
      let (method, d) ← derivation? c
      let base ← (← e.typeNamed? d "base") |> in? e n
      simpleContent? e l d base method
    | none, none => complexContent? e l l (isMixed l) .anyType .restriction

/-- A type, unless it refers to something unknown, is derived from itself or is derived as it must
not be. -/
def of? (e : Environment) (t : TypeTarget) : Option Definition := in? e e.depth t

/-- The type and the types it is derived from. -/
def lineage : Definition → List Definition
  | simple t => t.lineage.map simple ++ [anyType]
  | anyType => [anyType]
  | complex c base => complex c base :: base.lineage

/-- The methods of derivation on the way from a type to another. Simple types are restricted. -/
def methodsTo (other : Definition) : Definition → List Method
  | simple t => if isSame (simple t) other then [] else [.restriction]
  | anyType => []
  | complex c base =>
    if isSame (complex c base) other then [] else c.method :: methodsTo other base

/-- Whether a type may stand for another without a method that is excluded. -/
def isDerivedFrom (t base : Definition) (without : List String) : Bool :=
  let isReached :=
    match t, base with
    | simple s, simple b => s.isDerivedFrom b
    | t, b => t.lineage.any (isSame b)
  isReached && (methodsTo base t).all (!without.contains ·.name)

end Definition
end ServiceDescription.Schema.Strict
