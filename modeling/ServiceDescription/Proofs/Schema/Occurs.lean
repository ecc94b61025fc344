import ServiceDescription.Proofs.Text.Integer
import ServiceDescription.Proofs.Text.Trimming
import ServiceDescription.Schema.Occurs

/-! Numbers of occurrences, read and shown. Whatever stands in an attribute, the number that is read
from it can be shown, and what is shown is read as this number again. The texts shown are therefore
normal forms, and there is one for every number that is not too long to be written. -/
namespace ServiceDescription.Schema.Occurs

/-- The text shown for a number, unless the number is too long to be written. -/
def display? (n : Int) : Option String :=
  if n = unbounded then some "unbounded" else Text.decimal? n

lemma natAbs_unbounded_lt : unbounded.natAbs < 10 ^ Text.maxDigits :=
  Nat.lt_of_lt_of_le (by decide)
    (Nat.pow_le_pow_right (by decide) (show 19 ≤ Text.maxDigits by decide))

/-- What is read has no more digits than can be written, the default included. -/
lemma natAbs_parse_lt (raw : Option String) : (parse 1 raw).natAbs < 10 ^ Text.maxDigits := by
  have hone : (1 : Int).natAbs < 10 ^ Text.maxDigits := Nat.one_lt_pow (by decide) (by decide)
  cases raw with
  | none => exact hone
  | some raw =>
    rw [parse]
    cases hnumber : number? (Text.trim raw) with
    | none => exact hone
    | some n =>
      unfold number? at hnumber
      split at hnumber
      · obtain rfl := Option.some.inj hnumber
        exact natAbs_unbounded_lt
      · exact Text.natAbs_lt_of_integer? hnumber

variable {n : Int}

theorem display?_eq_some_iff :
    display? n = some (display n) ↔ n.natAbs < 10 ^ Text.maxDigits := by
  unfold display? display
  by_cases hn : n = unbounded
  · rw [if_pos hn, if_pos hn, hn]
    exact iff_of_true rfl natAbs_unbounded_lt
  · rw [if_neg hn, if_neg hn]
    exact Text.decimal?_eq_some_iff

/-- No character that is shown is a blank. -/
lemma tight_display (n : Int) : Text.Tight (display n).toList := by
  apply Text.tight_of_forall
  unfold display
  split
  · simp [Text.isBlank]
  · rw [Text.decimal, String.toList_ofList]
    exact Text.forall_decimalChars (by decide) (by decide) n

lemma trim_display (n : Int) : Text.trim (display n) = display n := by
  rw [Text.trim, Text.trimChars_of_tight (tight_display n), String.ofList_toList]

/-- The word for no bound is not the text of a number. -/
lemma decimal_ne_word (n : Int) : Text.decimal n ≠ "unbounded" := by
  intro h
  have hchars : Text.decimalChars n = "unbounded".toList := by
    rw [← h, Text.decimal, String.toList_ofList]
  have hletter : 'u' ∈ Text.decimalChars n := by
    rw [hchars]
    decide
  have hnone : ∀ c ∈ Text.decimalChars n, c ≠ 'u' :=
    Text.forall_decimalChars (by decide) (by decide) n
  exact hnone 'u' hletter rfl

/-- A number is read back from its text, the one without a bound from the word for it. -/
theorem number?_display (h : n.natAbs < 10 ^ Text.maxDigits) : number? (display n) = some n := by
  unfold display
  by_cases hn : n = unbounded
  · rw [if_pos hn, number?, if_pos rfl, hn]
  · rw [if_neg hn, number?, if_neg (decimal_ne_word n), Text.decimal, String.toList_ofList,
      Text.integer?_decimalChars h]

/-- A number survives being shown and read again just when it can be shown. -/
theorem parse_display_iff : parse 1 (some (display n)) = n ↔ display? n = some (display n) := by
  rw [display?_eq_some_iff]
  constructor
  · intro h
    rw [← h]
    exact natAbs_parse_lt _
  · intro h
    rw [parse, trim_display, number?_display h, Option.getD_some]

/-- Every text is read as a number that can be shown. What is shown is read as the same number,
without a report, and shown as the same text again. -/
theorem parse_survives (raw : String) :
    ∃ shown, display? (parse 1 (some raw)) = some shown ∧ shown = display (parse 1 (some raw)) ∧
      parse 1 (some shown) = parse 1 (some raw) ∧ events (some shown) = [] ∧
      display? (parse 1 (some shown)) = some shown := by
  have hshort := natAbs_parse_lt (some raw)
  have hshown := display?_eq_some_iff.mpr hshort
  have hparse := parse_display_iff.mpr hshown
  have hnumber := number?_display hshort
  rw [← trim_display] at hnumber
  refine ⟨_, hshown, rfl, hparse, ?_, ?_⟩
  · rw [events, hnumber]
    rfl
  · rw [hparse]
    exact hshown

/-- Digits of other scripts, a separator and zeros in front are gone from what is shown, and so are
the digits of the number that stands for no bound. -/
example :
    [" -0\u0664_2 ", "9223372036854775807", "+9223372036854775808", "many"].map
        (fun raw => display? (parse 1 (some raw))) =
      [some "-42", some "unbounded", some "9223372036854775808", some "1"] := by
  decide +kernel

end ServiceDescription.Schema.Occurs
