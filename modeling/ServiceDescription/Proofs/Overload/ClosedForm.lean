import Mathlib.Data.Nat.Nth
import ServiceDescription.Proofs.Overload.Suffix

/-! Which name every operation gets. The first occurrence of a name keeps it; the m-th later one
gets the m-th suffix that no declared name has. The search that resumes at the last suffix of the
name passes over declared names only, since no other name handed out has the same base. -/
namespace ServiceDescription.Overload

/-- A number from one on whose suffixed name is not declared. -/
def FreeSuffix (declared : List String) (name : String) (k : ℕ) : Prop :=
  0 < k ∧ suffixed name k ∉ declared

instance (declared : List String) (name : String) : DecidablePred (FreeSuffix declared name) :=
  fun _ => inferInstanceAs (Decidable (_ ∧ _))

theorem freeSuffix_infinite (declared : List String) (name : String) :
    (Set.ofPred (FreeSuffix declared name)).Infinite := by
  refine Set.infinite_of_forall_exists_gt fun a => ?_
  obtain ⟨k, hlo, -, hk⟩ := exists_free declared name (a + 1)
  exact ⟨k, ⟨by omega, hk⟩, by omega⟩

/-- The name for the next operation declared as `name` when the operations before it are declared
as `earlier`. -/
noncomputable def uniqueName (declared earlier : List String) (name : String) : String :=
  if name ∈ earlier then
    suffixed name (Nat.nth (FreeSuffix declared name) (earlier.count name - 1))
  else name

lemma uniqueName_notMem {declared earlier : List String} {name : String} (h : name ∈ earlier) :
    uniqueName declared earlier name ∉ declared := by
  rw [uniqueName, if_pos h]
  exact (Nat.nth_mem_of_infinite (freeSuffix_infinite declared name) _).2

lemma uniqueName_eq_self_iff {declared earlier : List String} {name : String} :
    uniqueName declared earlier name = name ↔ name ∉ earlier := by
  by_cases h : name ∈ earlier
  · simp [uniqueName, h, suffixed_ne]
  · simp [uniqueName, h]

namespace Progress

/-- The number of the suffix that a name was given last, zero before the first. -/
def last (p : Progress) (name : String) : ℕ := (p.lastIndex.lookup name).getD 0

/-- What has been handed out after the names `done`: these names and the suffixed names up to the
last number of each; the free numbers up to it are as many as the renamed operations. -/
structure Records (declared done : List String) (p : Progress) : Prop where
  mem_used : ∀ s, s ∈ p.used ↔ s ∈ done ∨
    ∃ name k, FreeSuffix declared name k ∧ k ≤ p.last name ∧ s = suffixed name k
  count_last : ∀ name, Nat.count (FreeSuffix declared name) (p.last name + 1) = done.count name - 1

lemma records_start (declared : List String) : Records declared [] start := by
  have hlast : ∀ name, start.last name = 0 := fun name => rfl
  refine ⟨fun s => ?_, fun name => ?_⟩
  · constructor
    · intro h; cases h
    · rintro (h | ⟨name, k, hk, hle, -⟩)
      · cases h
      · have := hk.1
        rw [hlast] at hle
        omega
  · rw [hlast, Nat.zero_add, Nat.count_one, if_neg fun h => Nat.lt_irrefl 0 h.1]
    rfl

variable {declared done : List String} {p : Progress} {name : String}

lemma Records.mem_used_iff (h : Records declared done p) (hname : name ∈ declared) :
    name ∈ p.used ↔ name ∈ done := by
  rw [h.mem_used]
  constructor
  · rintro (hd | ⟨base, k, hk, -, rfl⟩)
    · exact hd
    · exact absurd hname hk.2
  · exact Or.inl

/-- Beyond the last number only declared names stand in the way. -/
lemma Records.taken_iff (h : Records declared done p) (hdone : done ⊆ declared) {k : ℕ}
    (hk : p.last name < k) : suffixed name k ∈ declared ++ p.used ↔ suffixed name k ∈ declared := by
  rw [List.mem_append, h.mem_used]
  constructor
  · rintro (hd | hd | ⟨base, j, -, hj, he⟩)
    · exact hd
    · exact hdone hd
    · obtain ⟨rfl, rfl⟩ := suffixed_inj.mp he
      omega
  · exact Or.inl

/-- The search resumed after the last number finds the next free one. -/
lemma Records.found (h : Records declared done p) (hdone : done ⊆ declared) (name : String) :
    let k := (freeIndex (declared ++ p.used) name ((declared ++ p.used).length + 1)
      (p.last name + 1)).2
    p.last name < k ∧ FreeSuffix declared name k ∧
      Nat.count (FreeSuffix declared name) k = done.count name - 1 := by
  intro k
  obtain ⟨hlo, hfree, hbefore⟩ := freeIndex_spec (declared ++ p.used) name (p.last name + 1)
  have hlast : p.last name < k := hlo
  have hk : FreeSuffix declared name k :=
    ⟨by omega, fun hd => hfree ((h.taken_iff hdone hlast).mpr hd)⟩
  refine ⟨hlast, hk, ?_⟩
  -- what the search passes over is declared, so no free number lies between
  have hgap : Nat.count (fun j => FreeSuffix declared name (p.last name + 1 + j))
      (k - (p.last name + 1)) = 0 := by
    refine Nat.count_iff_forall_not.mpr fun j hj hfj => hfj.2 ?_
    exact (h.taken_iff hdone (by omega)).mp (hbefore _ (by omega) (show _ < k by omega))
  calc Nat.count (FreeSuffix declared name) k
      = Nat.count (FreeSuffix declared name) (p.last name + 1 + (k - (p.last name + 1))) := by
        congr 1; omega
    _ = done.count name - 1 := by rw [Nat.count_add, hgap, h.count_last, Nat.add_zero]

lemma Records.keep (h : Records declared done p) (hname : name ∉ done) :
    Records declared (done ++ [name]) { p with used := name :: p.used } := by
  refine ⟨fun s => ?_, fun base => ?_⟩
  · rw [List.mem_cons, h.mem_used]
    simp only [List.mem_append, List.mem_singleton, last]
    tauto
  · refine (h.count_last base).trans ?_
    by_cases hb : name = base
    · subst hb
      simp [List.count_eq_zero_of_not_mem hname]
    · simp [hb]

lemma last_cons (used : List String) (k : ℕ) (base : String) :
    last ⟨used, (name, k) :: p.lastIndex⟩ base = if base = name then k else p.last base := by
  by_cases hb : base = name
  · simp [last, hb]
  · simp [last, hb, List.lookup_cons, beq_eq_false_iff_ne.mpr hb]

/-- Between the last number of a name and the next free one no number is free. -/
lemma Records.le_last_or_eq (h : Records declared done p) {j k : ℕ}
    (hcount : Nat.count (FreeSuffix declared name) k = done.count name - 1)
    (hj : FreeSuffix declared name j) (hjk : j ≤ k) : j ≤ p.last name ∨ j = k := by
  by_contra hcon
  push Not at hcon
  have hlt : j < k := lt_of_le_of_ne hjk hcon.2
  have hstrict := Nat.count_strict_mono hj hlt
  have hmono :=
    Nat.count_monotone (FreeSuffix declared name) (show p.last name + 1 ≤ j from hcon.1)
  rw [h.count_last] at hmono
  omega

/-- Handing out the next free number `k` of a name adds just this number to the recorded ones. -/
lemma Records.le_last_cons_iff (h : Records declared done p) {k : ℕ} (used : List String)
    (hlast : p.last name < k)
    (hcount : Nat.count (FreeSuffix declared name) k = done.count name - 1) {base : String} {j : ℕ}
    (hj : FreeSuffix declared base j) :
    j ≤ last ⟨used, (name, k) :: p.lastIndex⟩ base ↔ j ≤ p.last base ∨ base = name ∧ j = k := by
  rw [last_cons]
  by_cases hb : base = name
  · subst hb
    rw [if_pos rfl]
    constructor
    · exact fun hle => (h.le_last_or_eq hcount hj hle).imp_right fun he => ⟨rfl, he⟩
    · rintro (hle | ⟨-, rfl⟩)
      · exact hle.trans hlast.le
      · exact Nat.le_refl j
  · simp [hb]

lemma Records.rename (h : Records declared done p) (hname : name ∈ done) {k : ℕ}
    (hlast : p.last name < k) (hfree : FreeSuffix declared name k)
    (hcount : Nat.count (FreeSuffix declared name) k = done.count name - 1) :
    Records declared (done ++ [name]) ⟨suffixed name k :: p.used, (name, k) :: p.lastIndex⟩ := by
  refine ⟨fun s => ?_, fun base => ?_⟩
  · rw [List.mem_cons, h.mem_used]
    constructor
    · rintro (rfl | hd | ⟨base, j, hj, hle, rfl⟩)
      · exact Or.inr ⟨name, k, hfree, by simp [last_cons], rfl⟩
      · exact Or.inl (List.mem_append_left _ hd)
      · exact Or.inr ⟨base, j, hj, (h.le_last_cons_iff _ hlast hcount hj).mpr (Or.inl hle), rfl⟩
    · rintro (hd | ⟨base, j, hj, hle, rfl⟩)
      · rcases List.mem_append.mp hd with hd | hd
        · exact Or.inr (Or.inl hd)
        · rw [List.mem_singleton.mp hd]
          exact Or.inr (Or.inl hname)
      · rcases (h.le_last_cons_iff _ hlast hcount hj).mp hle with hle | ⟨rfl, rfl⟩
        · exact Or.inr (Or.inr ⟨base, j, hj, hle, rfl⟩)
        · exact Or.inl rfl
  · rw [last_cons]
    split_ifs with hb
    · subst hb
      have hpos := List.count_pos_iff.mpr hname
      rw [Nat.count_succ, if_pos hfree, hcount, List.count_append, List.count_singleton_self]
      omega
    · rw [h.count_last, List.count_append, List.count_singleton]
      simp [Ne.symm hb]

/-- One step hands out the name that the closed form gives, and records it. -/
theorem Records.step (h : Records declared done p) (hdone : done ⊆ declared)
    (hname : name ∈ declared) :
    (Overload.step declared p name).1.assigned = uniqueName declared done name ∧
      Records declared (done ++ [name]) (Overload.step declared p name).2 := by
  by_cases hd : name ∈ done
  · obtain ⟨hlast, hfree, hcount⟩ := h.found hdone name
    have hused : name ∈ p.used := (h.mem_used_iff hname).mpr hd
    have hnth := Nat.nth_count hfree
    rw [hcount] at hnth
    simp only [Overload.step, uniqueName, List.contains_eq_mem, hused, hd, decide_true, if_true]
    constructor
    · rw [hnth]; rfl
    · exact h.rename hd hlast hfree hcount
  · have hused : name ∉ p.used := fun hu => hd ((h.mem_used_iff hname).mp hu)
    simp only [Overload.step, uniqueName, List.contains_eq_mem, hused, hd, decide_false, if_false]
    exact ⟨rfl, h.keep hd⟩

end Progress

theorem assigned_namingsFrom {declared done names : List String} {p : Progress}
    (h : p.Records declared done) (hdone : done ⊆ declared) (hnames : names ⊆ declared) (i : ℕ) :
    ((namingsFrom declared p names).map Naming.assigned)[i]? =
      names[i]?.map (uniqueName declared (done ++ names.take i)) := by
  induction names generalizing done p i with
  | nil => rfl
  | cons name names ih =>
    have hname : name ∈ declared := hnames List.mem_cons_self
    obtain ⟨hassigned, hnext⟩ := h.step hdone hname
    cases i with
    | zero => simp [namingsFrom, hassigned]
    | succ i =>
      have hdone' : done ++ [name] ⊆ declared :=
        List.append_subset.mpr ⟨hdone, by simpa using hname⟩
      have hrest := ih hnext hdone' (fun s hs => hnames (List.mem_cons_of_mem _ hs)) i
      simpa [namingsFrom] using hrest

lemma getElem?_disambiguate (names : List String) (i : ℕ) :
    (disambiguate names)[i]? = names[i]?.map (uniqueName names (names.take i)) := by
  have h := assigned_namingsFrom (Progress.records_start names) (List.nil_subset _)
    (List.Subset.refl names) i
  rwa [List.nil_append] at h

/-- A renamed operation shares its name with no operation named before it. -/
lemma uniqueName_ne {declared before after : List String} {a b : String} (ha : a ∈ declared)
    (hb : b ∈ declared) (hbefore : before ++ [a] <+: after) :
    uniqueName declared before a ≠ uniqueName declared after b := by
  have hmem : a ∈ after := hbefore.subset (by simp)
  by_cases hb' : b ∈ after
  · by_cases ha' : a ∈ before
    · -- both are renamed: with one base, the later one has the greater number
      intro he
      rw [uniqueName, uniqueName, if_pos ha', if_pos hb'] at he
      obtain ⟨rfl, hk⟩ := suffixed_inj.mp he
      have hcount := hbefore.sublist.count_le a
      rw [List.count_append, List.count_singleton_self] at hcount
      have hpos := List.count_pos_iff.mpr ha'
      have := Nat.nth_injective (freeSuffix_infinite declared a) hk
      omega
    · rw [uniqueName_eq_self_iff.mpr ha']
      exact fun he => uniqueName_notMem hb' (he ▸ ha)
  · rw [uniqueName_eq_self_iff.mpr hb']
    intro he
    by_cases ha' : a ∈ before
    · exact uniqueName_notMem ha' (he ▸ hb)
    · rw [uniqueName_eq_self_iff.mpr ha'] at he
      exact hb' (he ▸ hmem)

lemma nodup_disambiguate (names : List String) : (disambiguate names).Nodup := by
  rw [List.nodup_iff_getElem?_ne_getElem?]
  intro i j hij hj
  rw [length_disambiguate] at hj
  have hi : i < names.length := hij.trans hj
  rw [getElem?_disambiguate, getElem?_disambiguate, List.getElem?_eq_getElem hi,
    List.getElem?_eq_getElem hj, Option.map_some, Option.map_some]
  refine fun he => uniqueName_ne (List.getElem_mem hi) (List.getElem_mem hj) ?_ (Option.some.inj he)
  rw [← List.take_succ_eq_append_getElem hi]
  exact List.take_prefix_take_left hij

/-- The whole rule for overloaded names: which name every position gets, that a position keeps its
name just when the name is new there, that no name is handed out twice, and that a name made up is
none of the declared ones. -/
theorem disambiguate_closedForm (names : List String) :
    (disambiguate names).length = names.length ∧
    (∀ i, (disambiguate names)[i]? = names[i]?.map fun name =>
      if name ∈ names.take i then
        suffixed name (Nat.nth (fun k => 0 < k ∧ suffixed name k ∉ names)
          ((names.take i).count name - 1))
      else name) ∧
    (∀ name, {k | 0 < k ∧ suffixed name k ∉ names}.Infinite) ∧
    (∀ i (hi : i < names.length),
      (disambiguate names)[i]? = some names[i] ↔ names[i] ∉ names.take i) ∧
    (disambiguate names).Nodup ∧
    ∀ i (hi : i < names.length), names[i] ∈ names.take i →
      ∀ s, (disambiguate names)[i]? = some s → s ∉ names := by
  have hat : ∀ i (hi : i < names.length),
      (disambiguate names)[i]? = some (uniqueName names (names.take i) names[i]) := by
    intro i hi
    rw [getElem?_disambiguate, List.getElem?_eq_getElem hi, Option.map_some]
  refine ⟨length_disambiguate names, getElem?_disambiguate names, freeSuffix_infinite names,
    fun i hi => ?_, nodup_disambiguate names, fun i hi hmem s hs => ?_⟩
  · rw [hat i hi, Option.some.injEq, uniqueName_eq_self_iff]
  · rw [hat i hi, Option.some.injEq] at hs
    exact hs ▸ uniqueName_notMem hmem

theorem disambiguate_closedForm_add :
    "Add" ∈ ["Add", "Add_1"] ∧
      (disambiguate ["Add", "Add_1", "Add"])[2]? = some "Add_2" ∧
      "Add_2" ∉ ["Add", "Add_1", "Add"] :=
  ⟨by decide, by decide,
    (disambiguate_closedForm ["Add", "Add_1", "Add"]).2.2.2.2.2 2 (by decide) (by decide) "Add_2"
      (by decide)⟩

end ServiceDescription.Overload
