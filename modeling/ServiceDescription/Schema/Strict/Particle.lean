import ServiceDescription.Schema.Strict.Wildcard

/-! Particles: what may stand in an element, in which order and how often. References to groups are
replaced by what the groups hold. -/
namespace ServiceDescription.Schema.Strict
open Xml

inductive Order where
  | sequence
  | choice
  | all
  deriving DecidableEq, Repr

namespace Order

def ofName? : String → Option Order
  | "sequence" => some sequence
  | "choice" => some choice
  | "all" => some all
  | _ => none

end Order

inductive Particle where
  /-- An element with its name. A global one may have others in its place. -/
  | element (range : Range) (name : Reference) (isGlobal isAbstract : Bool)
  | any (range : Range) (wildcard : Wildcard)
  | group (range : Range) (order : Order) (members : List Particle)
  deriving Repr

namespace Particle

def range : Particle → Range
  | element r _ _ _ => r
  | any r _ => r
  | group r _ _ => r

mutual

/-- Whether a particle needs no element. -/
def isEmptiable : Particle → Bool
  | element r _ _ _ => r.least = 0
  | any r _ => r.least = 0
  | group r .choice members => r.least = 0 || members.isEmpty || isAnyEmptiable members
  | group r _ members => r.least = 0 || areEmptiable members

def isAnyEmptiable : List Particle → Bool
  | [] => false
  | p :: ps => isEmptiable p || isAnyEmptiable ps

def areEmptiable : List Particle → Bool
  | [] => true
  | p :: ps => isEmptiable p && areEmptiable ps

end

def memberNames : List String := ["element", "any", "group", "sequence", "choice", "all"]

/-- The model group in the definition of a group. -/
def model? (group : Located) : Option Located :=
  (partsOf group ["all", "choice", "sequence"]).head?

/-- The name of a local element: it is qualified if the element or the schema says so. -/
def localName (e : Environment) (l : Located) : Reference :=
  let form := (l.attr? "form").getD (e.root.attr "elementFormDefault")
  ⟨if form = "qualified" then e.target else none, l.attr "name"⟩

def isTrue (text : Option String) : Bool := text = some "true" || text = some "1"

mutual

/-- The particle of an element; the inner `none` is for one that never comes, which is left out
without a look at what it refers to. Within a group, a reference cannot be to a group of all nor to
one without content. -/
def within? (e : Environment) : Nat → Located → Option (Option Particle)
  | 0, _ => none
  | n + 1, l =>
    let range := Range.of l
    if l.localName = "element" && (l.attr? "ref").isNone then
      some (some (element range (localName e l) false false))
    else if range.isVoid then some none
    else
      match l.localName with
      | "element" =>
        (e.declaredNamed? "element" l "ref").map fun d =>
          some (element range ⟨e.target, d.attr "name"⟩ true (isTrue (d.attr? "abstract")))
      | "any" => some (some (any range (Wildcard.of e l)))
      | "group" => do
        let model ← model? (← e.declaredNamed? "group" l "ref")
        if model.localName = "all" then none
        let order ← Order.ofName? model.localName
        return some (group range order (← members? e n (partsOf model memberNames)))
      | name => do
        let order ← Order.ofName? name
        return some (group range order (← members? e n (partsOf l memberNames)))

def members? (e : Environment) : Nat → List Located → Option (List Particle)
  | 0, _ => none
  | _ + 1, [] => some []
  | n + 1, l :: ls => do
    let p ← within? e n l
    let ps ← members? e n ls
    return p.toList ++ ps

end

/-- The particle of a type. A reference to a group without content gives none, and a group of all
comes at most once. -/
def of? (e : Environment) (l : Located) : Option (Option Particle) :=
  let range := Range.of l
  if range.isVoid then some none
  else if l.localName = "group" then
    match e.declaredNamed? "group" l "ref" with
    | none => none
    | some definition =>
      match model? definition with
      | none => some none
      | some model => do
        if model.localName = "all" && range.most ≠ some 1 then none
        let order ← Order.ofName? model.localName
        return some (group range order (← members? e e.depth (partsOf model memberNames)))
  else within? e e.depth l

end Particle
end ServiceDescription.Schema.Strict
