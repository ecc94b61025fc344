/-! Automata that read names of elements and count. A transition reads a name, or it reads nothing;
it may count a round of a counter, and it may be a gate that opens when a counter is satisfied.
After the transitions that read nothing are removed, an automaton is deterministic if no two
transitions compete for a name. -/
namespace ServiceDescription.Schema.Strict

/-- What a transition reads: the names that its text agrees with, or all others. Every symbol of an
automaton has a number of its own. -/
structure Symbol where
  number : Nat
  text : List Char
  isNegated : Bool
  deriving DecidableEq, Repr

namespace Symbol

/-- Whether two texts agree, where an asterisk stands for everything up to a bar. -/
def agree : Nat → List Char → List Char → Bool
  | 0, _, _ => false
  | n + 1, c :: s, d :: t =>
    let next (s t : List Char) := if t.isEmpty then s.isEmpty else agree n s t
    let upToBar (t : List Char) := t.dropWhile (· ≠ '|')
    if c = d then next s t
    else if d = '*' then next t (upToBar (c :: s))
    else if c = '*' then next s (upToBar (d :: t))
    else false
  | _ + 1, _, _ => false

/-- Whether two symbols can read the same name. -/
def competes (a b : Symbol) : Bool :=
  a.number = b.number ||
    (agree (a.text.length + b.text.length + 1) a.text b.text != (a.isNegated != b.isNegated))

end Symbol

/-- What has to be satisfied for a transition that reads nothing: one counter, or all. -/
inductive Gate where
  | counter (n : Nat)
  | all
  deriving DecidableEq, Repr

structure Transition where
  symbol : Option Symbol
  target : Nat
  counter : Option Nat
  gate : Option Gate
  deriving DecidableEq, Repr

namespace Transition

/-- A transition that reads nothing and has no condition. -/
def isFree (t : Transition) : Bool := t.symbol.isNone && t.gate.isNone

end Transition

/-- The transitions of each state, in the order in which they were added. State zero is the first
one. -/
structure Automaton where
  states : Array (List Transition) := #[[]]
  counters : Nat := 0
  symbols : Nat := 0
  deriving Repr

namespace Automaton

def transitions (a : Automaton) (state : Nat) : List Transition := a.states.getD state []

/-- A transition that is there already is not added again. -/
def addTo (ts : List Transition) (t : Transition) : List Transition :=
  if ts.contains t then ts else ts ++ [t]

def update (a : Automaton) (state : Nat) (f : List Transition → List Transition) : Automaton :=
  { a with states := a.states.modify state f }

abbrev Builder := StateM Automaton

def newState : Builder Nat := do
  let a ← get
  set { a with states := a.states.push [] }
  return a.states.size

def newCounter : Builder Nat := do
  let a ← get
  set { a with counters := a.counters + 1 }
  return a.counters

def newSymbol (text : List Char) (isNegated : Bool) : Builder Symbol := do
  let a ← get
  set { a with symbols := a.symbols + 1 }
  return ⟨a.symbols, text, isNegated⟩

def add (source : Nat) (t : Transition) : Builder Unit :=
  modify fun a => a.update source (addTo · t)

/-- A transition that reads a name. -/
def reading (source target : Nat) (text : List Char) (isNegated : Bool) : Builder Unit := do
  add source ⟨← newSymbol text isNegated, target, none, none⟩

/-- A transition to a new state. -/
def readingOn (source : Nat) (text : List Char) : Builder Nat := do
  let target ← newState
  reading source target text false
  return target

/-- A transition that reads a name and counts. -/
def counting (source target : Nat) (text : List Char) (counter : Nat) : Builder Unit := do
  add source ⟨← newSymbol text false, target, counter, none⟩

def free (source target : Nat) : Builder Unit := add source ⟨none, target, none, none⟩

def freeOn (source : Nat) : Builder Nat := do
  let target ← newState
  free source target
  return target

/-- A transition that begins another round. -/
def again (source target counter : Nat) : Builder Unit :=
  add source ⟨none, target, some counter, none⟩

def leave (source target : Nat) (gate : Gate) : Builder Unit :=
  add source ⟨none, target, none, some gate⟩

def leaveOn (source : Nat) (gate : Gate) : Builder Nat := do
  let target ← newState
  leave source target gate
  return target

/-- An automaton in which a state may have had transitions that are gone. -/
abbrev Draft := Array (List (Option Transition))

/-- Lets the transitions to a state lead to another one. -/
def redirect (old new : Nat) (ts : List (Option Transition)) : List (Option Transition) :=
  let moved := ts.filterMap fun t => t.filter (·.target = old)
  let kept := ts.map fun t => t.filter (·.target ≠ old)
  moved.foldl (fun kept t =>
    let t := some { t with target := new }
    if kept.contains t then kept else kept ++ [t]) kept

/-- A state that is neither the first nor the last, and never had any transition but a free one
that counts nothing, is passed over. -/
def bypass (last : Nat) (d : Draft) (state : Nat) : Draft :=
  match d.getD state [] with
  | [some t] =>
    if state ≠ 0 && state ≠ last && t.isFree && t.counter.isNone && t.target ≠ state then
      (d.map (redirect state t.target)).modify state fun _ => []
    else d
  | _ => d

/-- The transitions that a state gets in the place of a free one to the state `target`: those found
from there by free transitions, with the innermost counter on the way. Each state is entered
once. -/
def found (a : Automaton) (source : Nat) :
    Nat → Nat → Option Nat → List Nat × List Transition → List Nat × List Transition
  | 0, _, _, r => r
  | n + 1, target, counter, (entered, ts) =>
    if target = source || entered.contains target then (entered, ts)
    else
      (a.transitions target).foldl (fun (entered, ts) t =>
        let counter := t.counter.or counter
        if t.symbol.isSome then (entered, addTo ts { t with counter := counter })
        else if t.target = source then (entered, ts)
        else if t.gate.isSome then (entered, addTo ts { t with counter := none })
        else found a source n t.target counter (entered, ts)) (target :: entered, ts)

/-- Removes the free transitions of a state. -/
def complete (a : Automaton) (state : Nat) : Automaton :=
  let done := ((a.transitions state).filter (·.isFree)).foldl (fun ts t =>
    let ts := ts.erase t
    if t.target = state then ts
    else ((found a state (a.states.size + 1) t.target t.counter ([], [])).2).foldl addTo ts)
    (a.transitions state)
  a.update state fun _ => done.filter fun t => t.symbol.isSome || t.target ≠ state

/-- The automaton without free transitions. The last states are completed first. -/
def completed (a : Automaton) (last : Nat) : Automaton :=
  let states := List.range a.states.size
  let draft : Draft := a.states.map (·.map some)
  let draft := states.foldl (bypass last) draft
  let a := { a with states := draft.map (·.filterMap id) }
  states.reverse.foldl complete a

/-- The states in `reached` and those that are reached from the states in `border` in at most `n`
rounds. -/
def closure (next : Nat → List Nat) : Nat → List Nat → List Nat → List Nat
  | 0, reached, _ => reached
  | n + 1, reached, border =>
    let new := (border.flatMap next).eraseDups.filter (!reached.contains ·)
    if new.isEmpty then reached else closure next n (new ++ reached) new

def reachable (a : Automaton) (next : Nat → List Nat) (state : Nat) : List Nat :=
  closure next a.states.size [state] [state]

/-- Of equal transitions, the last one stays. -/
def distinct : List Transition → List Transition
  | [] => []
  | t :: ts =>
    if t.symbol.isSome && ts.any (fun u => u.symbol.isSome &&
        u.symbol.map (·.text) = t.symbol.map (·.text) && u.target = t.target &&
        u.counter = t.counter && u.gate = t.gate) then
      distinct ts
    else t :: distinct ts

/-- Whether a name that is read from a state to `target` can also be read from a state beyond a
gate, in another way than to the same target. -/
def competesBeyond (a : Automaton) (source target : Nat) (s : Symbol) (gate : Nat) : Bool :=
  let next state :=
    ((a.transitions state).filter fun t => t.symbol.isNone && t.target ≠ source).map (·.target)
  (a.reachable next gate).any fun state =>
    (a.transitions state).any fun t =>
      match t.symbol with
      | some u =>
        t.target ≠ source && u.competes s && (t.target ≠ target || u.text ≠ s.text)
      | none => false

/-- Whether a transition competes with one before it. Two that count different things on the way to
one state may read the same name. -/
def compete (a : Automaton) (state : Nat) (earlier t : Transition) : Bool :=
  match t.symbol, earlier.symbol with
  | some s, some u =>
    s.competes u && (t.target ≠ earlier.target || t.counter = earlier.counter || s.text ≠ u.text)
  | some s, none => competesBeyond a state t.target s earlier.target
  | none, _ => false

/-- No transition competes with any before it. -/
def areSeparate (a : Automaton) (state : Nat) : List Transition → List Transition → Bool
  | _, [] => true
  | before, t :: ts =>
    before.all (fun u => !compete a state u t) && areSeparate a state (before ++ [t]) ts

/-- Whether an automaton without free transitions is deterministic in all states it can reach. -/
def isDeterministic (a : Automaton) : Bool :=
  let next state := (a.transitions state).map (·.target)
  let a := { a with states := a.states.map distinct }
  (a.reachable next 0).all fun state => areSeparate a state [] (a.transitions state)

end Automaton
end ServiceDescription.Schema.Strict
