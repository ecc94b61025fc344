import Mathlib.Data.List.Nodup
import Mathlib.Data.List.Perm.Subperm
import ServiceDescription.Overload

/-! Numbered suffixes. A suffixed name determines the name and the number it was made of, so among
more suffixed names of one base than there are names taken, one is free. The bounded search for it
therefore never runs out of attempts. -/
namespace ServiceDescription.Overload

lemma underscore_notMem_decimalChars (n : ℕ) : '_' ∉ Text.decimalChars n := by
  intro h
  have hd : Char.isDigit '_' = true :=
    Nat.isDigit_of_mem_toDigits (b := 10) (n := n) (by decide) (by decide) h
  exact absurd hd (by decide)

lemma decimalChars_injective {i j : ℕ} (h : Text.decimalChars i = Text.decimalChars j) :
    i = j := by
  have hd : Nat.toDigits 10 i = Nat.toDigits 10 j := h
  rw [← Nat.ofDigitChars_ten_toDigits (n := i), hd, Nat.ofDigitChars_ten_toDigits]

@[simp] theorem toList_suffixed (name : String) (i : ℕ) :
    (suffixed name i).toList = name.toList ++ '_' :: Text.decimalChars i := by
  simp [suffixed, Text.decimal]

/-- A separator that does not occur after its last place splits a list in one way only. -/
lemma split_unique {α : Type} {s : α} {xs ys as bs : List α} (ha : s ∉ as) (hb : s ∉ bs)
    (h : xs ++ s :: as = ys ++ s :: bs) : xs = ys ∧ as = bs := by
  rcases List.append_eq_append_iff.mp h with ⟨c, rfl, hc⟩ | ⟨c, rfl, hc⟩
  · cases c with
    | nil => simpa using hc
    | cons t c =>
      have hs : as = c ++ s :: bs := (List.cons.inj hc).2
      exact absurd (by simp [hs]) ha
  · cases c with
    | nil => simpa [eq_comm] using hc
    | cons t c =>
      have hs : bs = c ++ s :: as := (List.cons.inj hc).2
      exact absurd (by simp [hs]) hb

theorem suffixed_inj {a b : String} {i j : ℕ} :
    suffixed a i = suffixed b j ↔ a = b ∧ i = j := by
  constructor
  · intro h
    have hl := congrArg String.toList h
    rw [toList_suffixed, toList_suffixed] at hl
    obtain ⟨hn, hd⟩ :=
      split_unique (underscore_notMem_decimalChars i) (underscore_notMem_decimalChars j) hl
    exact ⟨String.toList_inj.mp hn, decimalChars_injective hd⟩
  · rintro ⟨rfl, rfl⟩; rfl

lemma suffixed_ne (name : String) (i : ℕ) : suffixed name i ≠ name := by
  intro h
  have hl := congrArg (List.length ∘ String.toList) h
  simp at hl

/-- Names that all differ are not all among fewer names that are taken. -/
theorem exists_unused {f : ℕ → String} (hf : f.Injective) (taken : List String) (start : ℕ) :
    ∃ k, start ≤ k ∧ k < start + (taken.length + 1) ∧ f k ∉ taken := by
  by_contra hall
  push Not at hall
  -- then `taken` has more different members than its length allows
  have hsub : (List.range' start (taken.length + 1)).map f ⊆ taken := by
    intro s hs
    obtain ⟨k, hk, rfl⟩ := List.mem_map.mp hs
    obtain ⟨hlo, hhi⟩ := List.mem_range'_1.mp hk
    exact hall k hlo hhi
  have hnodup : ((List.range' start (taken.length + 1)).map f).Nodup :=
    List.Nodup.map hf List.nodup_range'
  have hle := (List.subperm_of_subset hnodup hsub).length_le
  rw [List.length_map, List.length_range'] at hle
  omega

/-- Not all of the `taken.length + 1` suffixed names from `start` on are taken. -/
theorem exists_free (taken : List String) (name : String) (start : ℕ) :
    ∃ k, start ≤ k ∧ k < start + (taken.length + 1) ∧ suffixed name k ∉ taken :=
  exists_unused (fun _ _ h => (suffixed_inj.mp h).2) taken start

lemma freeIndex_bounds (taken : List String) (name : String) (attempts start : ℕ)
    (h : ∃ k, start ≤ k ∧ k < start + attempts ∧ suffixed name k ∉ taken) :
    let k := (freeIndex taken name attempts start).2
    start ≤ k ∧ suffixed name k ∉ taken ∧ ∀ j, start ≤ j → j < k → suffixed name j ∈ taken := by
  induction attempts generalizing start with
  | zero =>
    obtain ⟨k, hlo, hhi, -⟩ := h
    omega
  | succ attempts ih =>
    by_cases hs : suffixed name start ∈ taken
    · have hlater : ∃ k, start + 1 ≤ k ∧ k < start + 1 + attempts ∧ suffixed name k ∉ taken := by
        obtain ⟨k, hlo, hhi, hk⟩ := h
        have hne : k ≠ start := by rintro rfl; exact hk hs
        exact ⟨k, by omega, by omega, hk⟩
      obtain ⟨hlo, hfree, htaken⟩ := ih (start + 1) hlater
      simp only [freeIndex, List.contains_eq_mem, hs, decide_true, if_true]
      refine ⟨by omega, hfree, fun j hj hjk => ?_⟩
      rcases Nat.eq_or_lt_of_le hj with rfl | hj
      · exact hs
      · exact htaken j hj hjk
    · simp only [freeIndex, List.contains_eq_mem, hs, decide_false]
      exact ⟨Nat.le_refl _, hs, fun j hj hjk => absurd hjk (by simpa using hj)⟩

/-- The search finds the first number from `start` on whose suffixed name is free. -/
theorem freeIndex_spec (taken : List String) (name : String) (start : ℕ) :
    let k := (freeIndex taken name (taken.length + 1) start).2
    start ≤ k ∧ suffixed name k ∉ taken ∧ ∀ j, start ≤ j → j < k → suffixed name j ∈ taken :=
  freeIndex_bounds taken name (taken.length + 1) start (exists_free taken name start)

end ServiceDescription.Overload
