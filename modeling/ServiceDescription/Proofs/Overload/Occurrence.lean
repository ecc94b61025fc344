import ServiceDescription.Proofs.Overload.ClosedForm

/-! Operations by their declared name and their place among those declared alike. Nothing else of a
list decides what an operation is called, except which names are declared in it. So two lists that
declare the same names call corresponding operations alike, in whatever order they have them. -/
namespace ServiceDescription.Overload

/-- What an operation is called that is declared as `name` after `m` others of this name. -/
noncomputable def occurrenceName (declared : List String) (name : String) (m : ℕ) : String :=
  if m = 0 then name else suffixed name (Nat.nth (FreeSuffix declared name) (m - 1))

@[simp] theorem occurrenceName_zero (declared : List String) (name : String) :
    occurrenceName declared name 0 = name := rfl

theorem occurrenceName_succ (declared : List String) (name : String) (m : ℕ) :
    occurrenceName declared name (m + 1) =
      suffixed name (Nat.nth (FreeSuffix declared name) m) := rfl

lemma uniqueName_eq_occurrenceName (declared earlier : List String) (name : String) :
    uniqueName declared earlier name = occurrenceName declared name (earlier.count name) := by
  by_cases h : name ∈ earlier
  · have hpos := List.count_pos_iff.mpr h
    rw [uniqueName, if_pos h, occurrenceName, if_neg (by omega)]
  · rw [uniqueName, if_neg h, List.count_eq_zero_of_not_mem h, occurrenceName_zero]

/-- Only which names are declared matters, not how often or in which order. -/
lemma occurrenceName_congr {declared declared' : List String}
    (h : ∀ s, s ∈ declared ↔ s ∈ declared') :
    occurrenceName declared = occurrenceName declared' := by
  have hfree : FreeSuffix declared = FreeSuffix declared' := by
    funext name k
    exact propext (and_congr_right fun _ => not_congr (h _))
  funext name m
  rw [occurrenceName, occurrenceName, hfree]

lemma occurrenceName_succ_notMem (declared : List String) (name : String) (m : ℕ) :
    occurrenceName declared name (m + 1) ∉ declared :=
  (Nat.nth_mem_of_infinite (freeSuffix_infinite declared name) m).2

lemma occurrenceName_injective (declared : List String) (name : String) :
    Function.Injective (occurrenceName declared name) := by
  intro i j h
  cases i with
  | zero =>
    cases j with
    | zero => rfl
    | succ j => exact absurd h.symm (suffixed_ne name _)
  | succ i =>
    cases j with
    | zero => exact absurd h (suffixed_ne name _)
    | succ j =>
      rw [occurrenceName_succ, occurrenceName_succ] at h
      rw [Nat.nth_injective (freeSuffix_infinite declared name) (suffixed_inj.mp h).2]

/-- An operation that is called like one of another list is declared like it, unless it has kept a
name that the other list does not declare but has made up. -/
lemma eq_or_of_occurrenceName_eq {declared declared' : List String} {a b : String} {i j : ℕ}
    (hb : b ∈ declared) (h : occurrenceName declared a i = occurrenceName declared' b j) :
    a = b ∨ i = 0 ∧ a ∉ declared' := by
  cases i with
  | zero =>
    cases j with
    | zero => exact Or.inl h
    | succ j =>
      rw [occurrenceName_zero] at h
      exact Or.inr ⟨rfl, h ▸ occurrenceName_succ_notMem declared' b j⟩
  | succ i =>
    cases j with
    | zero =>
      rw [occurrenceName_zero] at h
      exact absurd (h ▸ hb) (occurrenceName_succ_notMem declared a i)
    | succ j =>
      rw [occurrenceName_succ, occurrenceName_succ] at h
      exact Or.inl (suffixed_inj.mp h).1

end ServiceDescription.Overload
