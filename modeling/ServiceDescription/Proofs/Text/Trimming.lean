import Mathlib.Data.List.TakeWhile
import Mathlib.Tactic.Lemma
import ServiceDescription.Text.Blank

/-! Texts without the blanks at their ends. Trimming leaves a tight text, a tight text is left as it
is, and blanks put around a text do not count. -/
namespace ServiceDescription.Text
variable {a b s : List Char}

/-- A text with a blank neither in front nor at its end. -/
def Tight (s : List Char) : Prop :=
  (∀ c ∈ s.head?, isBlank c = false) ∧ ∀ c ∈ s.getLast?, isBlank c = false

lemma head_trimStartChars (s : List Char) : ∀ c ∈ (trimStartChars s).head?, isBlank c = false := by
  intro c hc
  have h := List.head?_dropWhile_not isBlank s
  rwa [show (s.dropWhile isBlank).head? = some c from hc] at h

lemma trimStartChars_of_head (h : ∀ c ∈ s.head?, isBlank c = false) : trimStartChars s = s := by
  cases s with
  | nil => rfl
  | cons c s => exact List.dropWhile_cons_of_neg (by simpa using h)

lemma trimEndChars_append (s : List Char) : ∃ rest, trimEndChars s ++ rest = s := by
  refine List.reverse_suffix.mp ?_
  rw [trimEndChars, List.reverse_reverse]
  exact List.dropWhile_suffix isBlank

theorem tight_trimChars (s : List Char) : Tight (trimChars s) := by
  constructor
  · intro c hc
    obtain ⟨rest, hrest⟩ := trimEndChars_append (trimStartChars s)
    have hhead : (trimStartChars s).head? = some c := by
      rw [← hrest, List.head?_append, show (trimEndChars _).head? = some c from hc]
      rfl
    exact head_trimStartChars s c hhead
  · intro c hc
    rw [trimChars, trimEndChars, List.getLast?_reverse] at hc
    exact head_trimStartChars (trimStartChars s).reverse c hc

theorem trimChars_of_tight (h : Tight s) : trimChars s = s := by
  have hend : trimStartChars s.reverse = s.reverse :=
    trimStartChars_of_head (by simpa only [List.head?_reverse] using h.2)
  rw [trimChars, trimStartChars_of_head h.1, trimEndChars]
  exact (congrArg List.reverse hend).trans s.reverse_reverse

/-- A text in which no character is a blank. -/
lemma tight_of_forall (h : ∀ c ∈ s, isBlank c = false) : Tight s :=
  ⟨fun c hc => h c (List.mem_of_head? hc), fun c hc => h c (List.mem_of_getLast? hc)⟩

lemma trimStartChars_append_of_blank (ha : ∀ c ∈ a, isBlank c = true) (s : List Char) :
    trimStartChars (a ++ s) = trimStartChars s := List.dropWhile_append_of_pos ha

lemma trimEndChars_append_of_blank (hb : ∀ c ∈ b, isBlank c = true) (s : List Char) :
    trimEndChars (s ++ b) = trimEndChars s := by
  have hreverse : ∀ c ∈ b.reverse, isBlank c = true := fun c hc => hb c (List.mem_reverse.mp hc)
  rw [trimEndChars, List.reverse_append, List.dropWhile_append_of_pos hreverse, trimEndChars]

/-- Blanks around a text do not count. -/
theorem trimChars_padded (ha : ∀ c ∈ a, isBlank c = true) (hb : ∀ c ∈ b, isBlank c = true)
    (s : List Char) : trimChars (a ++ s ++ b) = trimChars s := by
  rw [trimChars, List.append_assoc, trimStartChars_append_of_blank ha, trimChars]
  by_cases hs : ∀ c ∈ s, isBlank c = true
  · -- nothing but blanks
    have hnil : trimStartChars s = [] := List.dropWhile_eq_nil_iff.mpr hs
    have hnil' : trimStartChars b = [] := List.dropWhile_eq_nil_iff.mpr hb
    rw [trimStartChars_append_of_blank hs, hnil, hnil']
  · have hne : ¬(s.dropWhile isBlank).isEmpty := by
      simpa [List.isEmpty_iff, List.dropWhile_eq_nil_iff] using hs
    have happend : trimStartChars (s ++ b) = trimStartChars s ++ b := by
      rw [trimStartChars, List.dropWhile_append, if_neg hne, trimStartChars]
    rw [happend, trimEndChars_append_of_blank hb]

/-- A text is what is left of it when it is trimmed, with blanks around. -/
lemma exists_padding (s : List Char) :
    ∃ a b, (∀ c ∈ a, isBlank c = true) ∧ (∀ c ∈ b, isBlank c = true) ∧
      s = a ++ trimChars s ++ b := by
  refine ⟨s.takeWhile isBlank, ((trimStartChars s).reverse.takeWhile isBlank).reverse,
    fun c hc => List.mem_takeWhile_imp hc,
    fun c hc => List.mem_takeWhile_imp (List.mem_reverse.mp hc), ?_⟩
  have hend : trimEndChars (trimStartChars s) ++
      ((trimStartChars s).reverse.takeWhile isBlank).reverse = trimStartChars s := by
    rw [trimEndChars, ← List.reverse_append, List.takeWhile_append_dropWhile, List.reverse_reverse]
  rw [trimChars, List.append_assoc, hend]
  exact (List.takeWhile_append_dropWhile).symm

/-- Nothing but blanks. -/
def Blank (s : String) : Prop := ∀ c ∈ s.toList, isBlank c = true

instance (s : String) : Decidable (Blank s) := List.decidableBAll (isBlank · = true) s.toList

end ServiceDescription.Text
