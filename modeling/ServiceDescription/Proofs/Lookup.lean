import Mathlib.Data.List.Forall2
import Mathlib.Data.List.Nodup

/-! Members of a list, found by a key and by their place among those of the same key, and members of
two lists that correspond. -/
namespace ServiceDescription.Lookup
variable {α : Type}

/-- Where no key occurs twice every member is found by its key. -/
theorem find?_of_nodup {key : α → String} {as : List α} (h : (as.map key).Nodup) {a : α}
    (ha : a ∈ as) : as.find? (key · = key a) = some a := by
  induction as with
  | nil => cases ha
  | cons b as ih =>
    obtain ⟨hb, has⟩ := List.nodup_cons.mp h
    rcases List.mem_cons.mp ha with rfl | ha
    · exact List.find?_cons_of_pos (by simp)
    · have hne : key b ≠ key a := fun he => hb (he ▸ List.mem_map_of_mem ha)
      rw [List.find?_cons_of_neg (by simpa using hne)]
      exact ih has ha

lemma countP_key (key : α → String) (as : List α) (name : String) :
    as.countP (key · = name) = (as.map key).count name := by
  rw [List.count, List.countP_map]
  exact List.countP_congr fun a _ => by simp

/-- What stands at place `m` of a filtered list stands in the whole list behind `m` members that are
kept. -/
theorem getElem?_filter_eq_some_iff {p : α → Bool} {as : List α} {m : ℕ} {a : α} :
    (as.filter p)[m]? = some a ↔ ∃ i, as[i]? = some a ∧ p a = true ∧ (as.take i).countP p = m := by
  induction as generalizing m with
  | nil => simp
  | cons b as ih =>
    rw [← Nat.or_exists_add_one]
    by_cases hb : p b = true
    · cases m with
      | zero => simpa [hb] using fun h : b = a => h ▸ hb
      | succ m => simp [hb, ih]
    · have hne : b = a → p a = true → 0 = m →
          ∃ i, as[i]? = some a ∧ p a = true ∧ (as.take i).countP p = m :=
        fun h ha _ => absurd (h ▸ ha) hb
      simpa [hb, ih] using hne

section Correspondence
variable {β γ δ : Type} {R : α → β → Prop} {as : List α} {bs : List β}

lemma cases_of_rel {o : Option α} {o' : Option β} (h : Option.Rel R o o') :
    (o = none ∧ o' = none) ∨ ∃ a b, o = some a ∧ o' = some b ∧ R a b := by
  cases h with
  | none => exact .inl ⟨rfl, rfl⟩
  | some hr => exact .inr ⟨_, _, rfl, rfl, hr⟩

lemma exists_of_mem_right (h : List.Forall₂ R as bs) {b : β} (hb : b ∈ bs) : ∃ a ∈ as, R a b := by
  obtain ⟨i, hi, rfl⟩ := List.getElem_of_mem hb
  have hi' : i < as.length := by rwa [h.length_eq]
  exact ⟨_, List.getElem_mem hi', h.get hi' hi⟩

/-- What is found in lists whose members correspond corresponds. -/
theorem rel_find? {p : α → Bool} {q : β → Bool} (h : List.Forall₂ R as bs)
    (hpq : ∀ a b, R a b → p a = q b) : Option.Rel R (as.find? p) (bs.find? q) := by
  induction h with
  | nil => exact .none
  | cons hhead _ ih =>
    rw [List.find?_cons, List.find?_cons, hpq _ _ hhead]
    split
    · exact .some hhead
    · exact ih

lemma rel_head? (h : List.Forall₂ R as bs) : Option.Rel R as.head? bs.head? := by
  cases h with
  | nil => exact .none
  | cons hhead _ => exact .some hhead

theorem rel_findSome? {S : γ → δ → Prop} {f : α → Option γ} {g : β → Option δ}
    (h : List.Forall₂ R as bs) (hfg : ∀ a b, R a b → Option.Rel S (f a) (g b)) :
    Option.Rel S (as.findSome? f) (bs.findSome? g) := by
  induction h with
  | nil => exact .none
  | cons hhead _ ih =>
    rw [List.findSome?_cons, List.findSome?_cons]
    obtain ⟨hf, hg⟩ | ⟨c, d, hf, hg, hcd⟩ := cases_of_rel (hfg _ _ hhead)
    · simpa only [hf, hg] using ih
    · simpa only [hf, hg] using .some hcd

theorem rel_bind {S : γ → δ → Prop} {f : α → Option γ} {g : β → Option δ} {o : Option α}
    {o' : Option β} (h : Option.Rel R o o') (hfg : ∀ a b, R a b → Option.Rel S (f a) (g b)) :
    Option.Rel S (o.bind f) (o'.bind g) := by
  cases h with
  | none => exact .none
  | some hr => exact hfg _ _ hr

theorem rel_or {o p : Option α} {o' p' : Option β} (ho : Option.Rel R o o')
    (hp : Option.Rel R p p') : Option.Rel R (o.or p) (o'.or p') := by
  cases ho with
  | none => exact hp
  | some hr => exact .some hr

/-- A function that does not tell corresponding things apart gives the same value for both. -/
theorem map_eq_of_rel {f : α → γ} {g : β → γ} {o : Option α} {o' : Option β}
    (h : Option.Rel R o o') (hfg : ∀ a b, R a b → f a = g b) : o.map f = o'.map g := by
  cases h with
  | none => rfl
  | some hr => exact congrArg some (hfg _ _ hr)

lemma isSome_eq_of_rel {o : Option α} {o' : Option β} (h : Option.Rel R o o') :
    o.isSome = o'.isSome := by cases h <;> rfl

theorem map_eq_of_forall₂ {f : α → γ} {g : β → γ} (h : List.Forall₂ R as bs)
    (hfg : ∀ a b, R a b → f a = g b) : as.map f = bs.map g := by
  induction h with
  | nil => rfl
  | cons hhead _ ih => rw [List.map_cons, List.map_cons, hfg _ _ hhead, ih]

theorem filterMap_eq_of_forall₂ {f : α → Option γ} {g : β → Option γ} (h : List.Forall₂ R as bs)
    (hfg : ∀ a b, R a b → f a = g b) : as.filterMap f = bs.filterMap g := by
  induction h with
  | nil => rfl
  | cons hhead _ ih => rw [List.filterMap_cons, List.filterMap_cons, hfg _ _ hhead, ih]

theorem zipWith_eq_of_forall₂ {f : α → δ → γ} {g : β → δ → γ} (h : List.Forall₂ R as bs)
    (hfg : ∀ a b c, R a b → f a c = g b c) (cs : List δ) :
    List.zipWith f as cs = List.zipWith g bs cs := by
  induction h generalizing cs with
  | nil => rfl
  | cons hhead _ ih =>
    cases cs with
    | nil => rfl
    | cons c cs => rw [List.zipWith_cons_cons, List.zipWith_cons_cons, hfg _ _ c hhead, ih]

end Correspondence
end ServiceDescription.Lookup
