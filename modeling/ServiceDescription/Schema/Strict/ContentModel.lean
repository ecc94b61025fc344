import ServiceDescription.Schema.Strict.Automaton
import ServiceDescription.Schema.Strict.Particle

/-! The automaton that reads the content of an element, built from its particle. A particle that may
come more than once has a counter, except where reading it again needs no count. -/
namespace ServiceDescription.Schema.Strict
open Automaton

/-- A name as a symbol: what comes after the bar is its namespace. -/
def symbolText (name : String) (space : Option String) : List Char :=
  match space with
  | some uri => if uri = "" then name.toList else name.toList ++ '|' :: uri.toList
  | none => name.toList

namespace Wildcard

/-- The symbols of the names that a wildcard lets in. -/
def symbols (w : Wildcard) : List (List Char × Bool) :=
  match w.spaces with
  | .all => [("*|*".toList, false), (['*'], false)]
  | .these spaces => spaces.map fun s => (symbolText "*" s, false)
  | .allBut space => [(symbolText "*" space, true)]

end Wildcard

namespace ContentModel

/-- The elements that may come in the place of a global element, itself first. -/
abbrev Substitutes := Reference → List Reference

def textOf (name : Reference) : List Char := symbolText name.name name.space

/-- An element that no other may come in place of. Whether it may come any number of times, once or
never, is said by loops; other numbers are counted. -/
def element (range : Range) (text : List Char) (start : Nat) : Builder Nat := do
  if range.most = some 1 then
    let last ← readingOn start text
    if range.least = 0 then free start last
    return last
  else if range.most.isNone && range.least < 2 then
    let last ← readingOn start text
    reading last last text false
    if range.least = 0 then free start last
    return last
  else
    let first ← freeOn start
    let counter ← newCounter
    let read ← readingOn first text
    again read first counter
    let last ← leaveOn read (.counter counter)
    if range.least = 0 then free first last
    return last

/-- Reads one of some symbols on the way from `start` to `last`. -/
def oneOf (start last : Nat) : List (List Char × Bool) → Builder Unit
  | [] => return ()
  | (text, isNegated) :: more => do
    if isNegated then reading start last text true
    else
      let read ← readingOn start text
      free read last
    oneOf start last more

/-- Any of some symbols, as often as a range says. The last state is there before all others. -/
def alternatives (range : Range) (symbols : List (List Char × Bool)) (start : Nat) :
    Builder Nat := do
  let last ← newState
  if range.most = some 1 then oneOf start last symbols
  else
    let counter ← newCounter
    let hop ← newState
    oneOf start hop symbols
    again hop start counter
    leave hop last (.counter counter)
  if range.least = 0 then free start last
  return last

/-- Counts the elements that may come in the place of one member of a group of all. -/
def countedAlternatives (range : Range) (texts : List (List Char)) (start : Nat) :
    Builder Unit := do
  let counter ← newCounter
  let chosen ← newState
  again start chosen counter
  texts.forM fun text => reading chosen start text false
  if range.least = 0 then free start start

/-- A member of a group of all: it leads back to where it starts and is counted. -/
def allMember (substitutes : Substitutes) (start : Nat) : Particle → Builder Unit
  | .element range name isGlobal _ => do
    let others := if isGlobal then substitutes name else []
    if !others.isEmpty then countedAlternatives range ((name :: others).map textOf) start
    else if range.most = some 1 && range.least ≤ 1 then
      counting start start (textOf name) (← newCounter)
      if range.least = 0 then free start start
  | _ => return ()

mutual

/-- Adds a particle behind a state. Returns the state behind the particle, and whether nothing needs
to be read on the way as far as groups are concerned. -/
def build (substitutes : Substitutes) : Particle → Nat → Builder (Nat × Bool)
  | .element range name isGlobal isAbstract, start => do
    let others := if isGlobal then substitutes name else []
    if !others.isEmpty then
      let symbols := (name :: others).map fun r => (textOf r, false)
      return (← alternatives range symbols start, range.least = 0)
    else if isAbstract then return (start, false)
    else return (← element range (textOf name) start, range.least = 0)
  | .any range w, start => do
    return (← alternatives range w.symbols start, range.least = 0)
  | .group range .sequence members, start => do
    if range = .once then inOrder substitutes members start
    else
      let loops := range.most.isNone || 1 < range.most.getD 0 || 1 < range.least
      let counts := loops && !(range.most.isNone && range.least ≤ 1)
      let first ← if loops then freeOn start else pure start
      let counter ← if counts then newCounter else pure 0
      let (read, isEmptiable) ← inOrder substitutes members first
      if counts then
        again read first counter
        let last ← leaveOn read (.counter counter)
        if isEmptiable || (range.most.isSome && range.least = 0) then free first last
        return (last, isEmptiable || (range.most.isSome && range.least = 0))
      else
        if loops then free read first
        let last ← freeOn read
        if range.least = 0 then free first last
        return (last, isEmptiable || range.least = 0)
  | .group range .choice members, start => do
    let last ← newState
    let isEmptiable ←
      if range.most = some 1 then oneOfParticles substitutes members start last
      else do
        let counter ← newCounter
        let hop ← newState
        let base ← newState
        let isEmptiable ← oneOfParticles substitutes members base hop
        free start base
        again hop base counter
        leave hop last (.counter counter)
        if isEmptiable then free base last
        pure isEmptiable
    if range.least = 0 then free start last
    return (last, isEmptiable || range.least = 0)
  | .group range .all members, start => do
    if members.isEmpty then return (start, true)
    let first ← freeOn start
    allMembers substitutes first members
    let last ← leaveOn first .all
    if range.least = 0 then free start last
    return (last, range.least = 0)

def inOrder (substitutes : Substitutes) : List Particle → Nat → Builder (Nat × Bool)
  | [], start => return (start, true)
  | p :: ps, start => do
    let (next, isEmptiable) ← build substitutes p start
    let (last, areEmptiable) ← inOrder substitutes ps next
    return (last, isEmptiable && areEmptiable)

def oneOfParticles (substitutes : Substitutes) :
    List Particle → Nat → Nat → Builder Bool
  | [], _, _ => return false
  | p :: ps, start, last => do
    let (read, isEmptiable) ← build substitutes p start
    free read last
    let isOneEmptiable ← oneOfParticles substitutes ps start last
    return isEmptiable || isOneEmptiable

def allMembers (substitutes : Substitutes) (start : Nat) : List Particle → Builder Unit
  | [] => return ()
  | p :: ps => do
    allMember substitutes start p
    allMembers substitutes start ps

end

/-- Whether the content that a particle describes can be read without looking ahead. -/
def isDeterministic (substitutes : Substitutes) (p : Particle) : Bool :=
  let ((last, _), a) := (build substitutes p 0).run {}
  (a.completed last).isDeterministic

end ContentModel
end ServiceDescription.Schema.Strict
