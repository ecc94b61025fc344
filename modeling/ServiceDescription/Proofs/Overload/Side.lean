import ServiceDescription.Proofs.Lookup
import ServiceDescription.Proofs.Overload.Occurrence

/-! Lists of operations with unique names, and looking an operation of one list up in another. Every
operation is found under its name in its own list. In another list that declares the same names, the
partner of an operation has the same place among the operations declared alike. -/
namespace ServiceDescription.Overload

/-- One side of a pairing: operations are made from nodes, each under the name that it gets, and
they remember the name that the node declares. -/
structure Side (α β : Type) where
  key : α → String
  make : α → String → β
  name : β → String
  declaredName : β → String
  name_make : ∀ a s, name (make a s) = s := by intros; rfl
  declaredName_make : ∀ a s, declaredName (make a s) = key a := by intros; rfl

namespace Side
variable {α β : Type} (side : Side α β) (as : List α)

def declared : List String := as.map side.key

def operations : List β := List.zipWith side.make as (disambiguate (side.declared as))

/-- The operations that are declared under a name, in order. -/
def declaredAs (n : String) : List β :=
  (side.operations as).filter (side.declaredName · = n)

def lookup (s : String) : Option β := (side.operations as).find? (side.name · = s)

theorem getElem?_operations (i : ℕ) :
    (side.operations as)[i]? = as[i]?.map fun a =>
      side.make a
        (occurrenceName (side.declared as) (side.key a) ((side.declared (as.take i)).count
          (side.key a))) := by
  rw [operations, List.getElem?_zipWith, getElem?_disambiguate, declared, List.getElem?_map]
  cases as[i]? with
  | none => rfl
  | some a =>
    rw [Option.map_some, Option.map_some, uniqueName_eq_occurrenceName, ← List.map_take]
    rfl

lemma names_operations :
    (side.operations as).map side.name = disambiguate (side.declared as) := by
  apply List.ext_getElem?
  intro i
  rw [List.getElem?_map, getElem?_operations, getElem?_disambiguate, declared, List.getElem?_map]
  cases as[i]? with
  | none => rfl
  | some a => simp [side.name_make, uniqueName_eq_occurrenceName, declared]

lemma declaredNames_operations :
    (side.operations as).map side.declaredName = side.declared as := by
  apply List.ext_getElem?
  intro i
  rw [List.getElem?_map, getElem?_operations, declared, List.getElem?_map]
  cases as[i]? with
  | none => rfl
  | some a => simp [side.declaredName_make]

/-- The operation declared as `n` after `m` others is made from the node that declares `n` after `m`
others. -/
theorem getElem?_declaredAs (n : String) (m : ℕ) :
    (side.declaredAs as n)[m]? =
      (as.filter (side.key · = n))[m]?.map
        (side.make · (occurrenceName (side.declared as) n m)) := by
  have hcount : ∀ i, ((side.operations as).take i).countP (side.declaredName · = n) =
      (side.declared (as.take i)).count n := by
    intro i
    rw [Lookup.countP_key, List.map_take, declaredNames_operations, declared, declared,
      List.map_take]
  ext x
  rw [Option.map_eq_some_iff, declaredAs, Lookup.getElem?_filter_eq_some_iff]
  simp only [Lookup.getElem?_filter_eq_some_iff, hcount, Lookup.countP_key, getElem?_operations,
    Option.map_eq_some_iff, decide_eq_true_eq]
  constructor
  · rintro ⟨i, ⟨a, ha, rfl⟩, hn, hm⟩
    rw [side.declaredName_make] at hn
    subst hn
    exact ⟨a, ⟨i, ha, rfl, hm⟩, by rw [hm]⟩
  · rintro ⟨a, ⟨i, ha, hn, hm⟩, rfl⟩
    subst hn
    exact ⟨i, ⟨a, ha, by rw [← hm]; rfl⟩, side.declaredName_make _ _, hm⟩

variable {as}

lemma name_of_getElem? {n : String} {m : ℕ} {x : β} (hx : (side.declaredAs as n)[m]? = some x) :
    side.name x = occurrenceName (side.declared as) n m := by
  rw [side.getElem?_declaredAs] at hx
  obtain ⟨a, -, rfl⟩ := Option.map_eq_some_iff.mp hx
  exact side.name_make a _

lemma mem_of_getElem? {n : String} {m : ℕ} {x : β} (hx : (side.declaredAs as n)[m]? = some x) :
    x ∈ side.operations as ∧ side.declaredName x = n := by
  simpa [declaredAs] using List.mem_of_getElem? hx

lemma declaredName_mem {x : β} (hx : x ∈ side.operations as) :
    side.declaredName x ∈ side.declared as := by
  rw [← declaredNames_operations]
  exact List.mem_map_of_mem hx

/-- Every operation has a place among those declared alike. -/
lemma exists_place {x : β} (hx : x ∈ side.operations as) :
    ∃ m : ℕ, (side.declaredAs as (side.declaredName x))[m]? = some x :=
  List.mem_iff_getElem?.mp (List.mem_filter.mpr ⟨hx, by simp⟩)

/-- Every operation is found under the name that it has got. -/
theorem lookup_name {x : β} (hx : x ∈ side.operations as) :
    side.lookup as (side.name x) = some x := by
  refine Lookup.find?_of_nodup ?_ hx
  rw [names_operations]
  exact nodup_disambiguate (side.declared as)

lemma lookup_eq_some {s : String} {x : β} (h : side.lookup as s = some x) :
    x ∈ side.operations as ∧ side.name x = s :=
  ⟨List.mem_of_find?_eq_some h, by simpa using List.find?_some h⟩

/-- What the operation declared as `n` after `m` others is called leads to this operation, if there
is one, and else to none. -/
theorem lookup_occurrenceName {n : String} (hn : n ∈ side.declared as) (m : ℕ) :
    side.lookup as (occurrenceName (side.declared as) n m) = (side.declaredAs as n)[m]? := by
  cases hplace : (side.declaredAs as n)[m]? with
  | some x =>
    rw [← side.name_of_getElem? hplace]
    exact side.lookup_name (side.mem_of_getElem? hplace).1
  | none =>
    -- an operation that is called so is declared as `n`, and it stands at the empty place
    refine Option.eq_none_iff_forall_ne_some.mpr fun x hx => ?_
    obtain ⟨hmem, hname⟩ := side.lookup_eq_some hx
    obtain ⟨k, hk⟩ := side.exists_place hmem
    have hcalled := (side.name_of_getElem? hk).symm.trans hname
    obtain rfl : side.declaredName x = n := (eq_or_of_occurrenceName_eq hn hcalled).resolve_right
      fun h => h.2 (side.declaredName_mem hmem)
    obtain rfl : k = m := occurrenceName_injective _ _ hcalled
    rw [hk] at hplace
    cases hplace

section Pairing
variable {γ δ : Type} (other : Side γ δ) {cs : List γ}

/-- Where both sides declare the same names, the operation declared as `n` after `m` others has as
its partner the one that the other side declares as `n` after `m` others. -/
theorem lookup_partner (h : ∀ n, n ∈ side.declared as ↔ n ∈ other.declared cs) {n : String} {m : ℕ}
    {x : β} (hx : (side.declaredAs as n)[m]? = some x) :
    other.lookup cs (side.name x) = (other.declaredAs cs n)[m]? := by
  obtain ⟨hmem, rfl⟩ := side.mem_of_getElem? hx
  rw [side.name_of_getElem? hx, occurrenceName_congr h]
  exact other.lookup_occurrenceName ((h _).mp (side.declaredName_mem hmem)) m

/-- Where the other side declares no name of its own, a partner is the wrong one just when the
operation has kept a name that the other side does not declare but has made up. -/
theorem exists_wrong_partner_iff (h : other.declared cs ⊆ side.declared as) {x : β}
    (hx : x ∈ side.operations as) :
    (∃ y, other.lookup cs (side.name x) = some y ∧ other.declaredName y ≠ side.declaredName x) ↔
      side.name x = side.declaredName x ∧ side.declaredName x ∉ other.declared cs ∧
        side.declaredName x ∈ disambiguate (other.declared cs) := by
  rw [← other.names_operations]
  constructor
  · rintro ⟨y, hy, hne⟩
    obtain ⟨hmem, hname⟩ := other.lookup_eq_some hy
    obtain ⟨i, hi⟩ := side.exists_place hx
    obtain ⟨j, hj⟩ := other.exists_place hmem
    have hcalled := side.name_of_getElem? hi
    -- two operations called alike but declared otherwise: one of the names has been made up
    have hsame := hcalled.symm.trans (hname.symm.trans (other.name_of_getElem? hj))
    obtain ⟨rfl, hnot⟩ :=
      (eq_or_of_occurrenceName_eq (h (other.declaredName_mem hmem)) hsame).resolve_left hne.symm
    rw [occurrenceName_zero] at hcalled
    exact ⟨hcalled, hnot, hcalled ▸ hname ▸ List.mem_map_of_mem hmem⟩
  · rintro ⟨hkept, hnot, hmade⟩
    obtain ⟨y, hmem, hname⟩ := List.mem_map.mp hmade
    refine ⟨y, ?_, fun he => hnot (he ▸ other.declaredName_mem hmem)⟩
    rw [hkept, ← hname]
    exact other.lookup_name hmem

end Pairing
end Side
end ServiceDescription.Overload
