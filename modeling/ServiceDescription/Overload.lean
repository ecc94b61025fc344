import ServiceDescription.Journal

/-! Unique names for overloaded operations. The first operation of a name keeps it; every later one
gets the name with a numbered suffix, passing over the suffixes that would give a declared name or
a name already handed out. -/
namespace ServiceDescription.Overload

def suffixed (name : String) (index : Nat) : String := name ++ "_" ++ Text.decimal index

/-- What became of one declared name: the name handed out and, for a renamed operation, the suffix
numbers passed over. -/
structure Naming where
  declared : String
  assigned : String
  skipped : List Nat
  renamed : Bool
  deriving DecidableEq, Repr

namespace Naming

def events (n : Naming) : List Event :=
  n.skipped.map (Event.suffixTaken n.declared) ++
    if n.renamed then [.operationRenamed n.declared n.assigned] else []

end Naming

/-- The first index from `index` on whose suffixed name is free, and the indexes passed over. Among
`taken.length + 1` suffixed names, which all differ, one is free. -/
def freeIndex (taken : List String) (name : String) : Nat → Nat → List Nat × Nat
  | 0, index => ([], index)
  | attempts + 1, index =>
    if taken.contains (suffixed name index) then
      let later := freeIndex taken name attempts (index + 1)
      (index :: later.1, later.2)
    else ([], index)

/-- The names handed out so far, latest first, and the last suffix number of each renamed name. -/
structure Progress where
  used : List String
  lastIndex : List (String × Nat)
  deriving Repr

def Progress.start : Progress := ⟨[], []⟩

/-- One naming: `declared` are all the names of the list that is being named. -/
def step (declared : List String) (p : Progress) (name : String) : Naming × Progress :=
  if p.used.contains name then
    let taken := declared ++ p.used
    let found := freeIndex taken name (taken.length + 1) ((p.lastIndex.lookup name).getD 0 + 1)
    let assigned := suffixed name found.2
    (⟨name, assigned, found.1, true⟩, ⟨assigned :: p.used, (name, found.2) :: p.lastIndex⟩)
  else (⟨name, name, [], false⟩, { p with used := name :: p.used })

def namingsFrom (declared : List String) (p : Progress) : List String → List Naming
  | [] => []
  | name :: rest =>
    let one := step declared p name
    one.1 :: namingsFrom declared one.2 rest

def namings (names : List String) : List Naming := namingsFrom names .start names

@[simp] theorem length_namingsFrom (declared : List String) (p : Progress) (names : List String) :
    (namingsFrom declared p names).length = names.length := by
  induction names generalizing p with
  | nil => rfl
  | cons name rest ih => simp [namingsFrom, ih]

/-- Unique names for a list of declared ones, in the same order. -/
def disambiguate (names : List String) : List String := (namings names).map Naming.assigned

@[simp] theorem length_disambiguate (names : List String) :
    (disambiguate names).length = names.length := by simp [disambiguate, namings]

def events (names : List String) : List Event := (namings names).flatMap Naming.events

end ServiceDescription.Overload
