import ServiceDescription.Schema.Strict.Environment

/-! Wildcards: names that are allowed because of their namespace. -/
namespace ServiceDescription.Schema.Strict
open Xml

/-- Namespaces; `none` stands for names in no namespace. -/
inductive SpaceSet where
  | all
  | allBut (space : Option String)
  | these (spaces : List (Option String))
  deriving DecidableEq, Repr

namespace SpaceSet

/-- Names in no namespace are never among all but some. -/
def contains (space : Option String) : SpaceSet → Bool
  | all => true
  | allBut other => space.isSome && space ≠ other
  | these spaces => spaces.contains space

/-- Whether one set is known to be part of another. Nothing is known of a set that lists nothing. -/
def isWithin : SpaceSet → SpaceSet → Bool
  | _, all => true
  | allBut s, allBut t => s = t
  | these [], _ => false
  | these ss, these ts => ss.all ts.contains
  | these ss, allBut t => !ss.contains t
  | _, _ => false

/-- What two sets have in common, if it can be said. -/
def inter? : SpaceSet → SpaceSet → Option SpaceSet
  | all, t => some t
  | s, all => some s
  | these ss, these ts => some (these (ss.filter ts.contains))
  | these ss, allBut t => some (these (ss.filter fun s => s ≠ t && s.isSome))
  | allBut s, these ts => some (these (ts.filter fun t => t ≠ s && t.isSome))
  | allBut s, allBut t =>
    if s = t then some (allBut s)
    else if s.isNone then some (allBut t)
    else if t.isNone then some (allBut s)
    else none

/-- All namespaces but one together with some that are listed, if that can be said. -/
def joinBut? (but : Option String) (spaces : List (Option String)) : Option SpaceSet :=
  if but.isNone then some (if spaces.contains none then all else allBut none)
  else if spaces.contains but then some (if spaces.contains none then all else allBut none)
  else if spaces.contains none then none
  else some (allBut but)

/-- Two sets together, if that can be said. -/
def union? : SpaceSet → SpaceSet → Option SpaceSet
  | all, _ => some all
  | _, all => some all
  | these ss, these ts => some (these (ss ++ ts.filter fun t => !ss.contains t))
  | these ss, allBut t => joinBut? t ss
  | allBut s, these ts => joinBut? s ts
  | allBut s, allBut t => some (allBut (if s = t then s else none))

end SpaceSet

/-- How closely what a wildcard lets in is looked at. -/
inductive Process where
  | skip
  | lax
  | strict
  deriving DecidableEq, Repr

namespace Process

def strength : Process → Nat
  | skip => 0
  | lax => 1
  | strict => 2

end Process

structure Wildcard where
  spaces : SpaceSet
  process : Process
  deriving DecidableEq, Repr

namespace Wildcard

/-- What the ur-type lets in. -/
def anything : Wildcard := ⟨.all, .lax⟩

/-- Words that stand for namespaces among others. -/
def space (target : Option String) (word : String) : Option String :=
  if word = "##targetNamespace" then target
  else if word = "##local" then none
  else some word

def of (e : Environment) (l : Located) : Wildcard where
  spaces :=
    match l.attr? "namespace" with
    | none => .all
    | some "##any" => .all
    | some "##other" => .allBut e.target
    | some text => .these ((listed text).map (space e.target)).eraseDups
  process :=
    match l.attr? "processContents" with
    | some "skip" => .skip
    | some "lax" => .lax
    | _ => .strict

end Wildcard
end ServiceDescription.Schema.Strict
