import Mathlib.Algebra.Group.Nat.Defs
import Mathlib.Data.List.Induction
import Mathlib.Tactic.Lemma
import ServiceDescription.Text.Integer

/-! Integers as text, both ways. A text that is read as an integer has no more digits than a written
integer may have, so that the integer can be written again; and what is written is read back. -/
namespace ServiceDescription.Text

lemma ofDigits_append_singleton (digits : List Nat) (d : Nat) :
    ofDigits (digits ++ [d]) = 10 * ofDigits digits + d := by
  simp [ofDigits]

lemma digitValue?_lt {c : Char} {d : Nat} (h : digitValue? c = some d) : d < 10 := by
  obtain ⟨z, hz, rfl⟩ := Option.map_eq_some_iff.mp h
  have hrange := List.find?_some hz
  simp only [Bool.and_eq_true, decide_eq_true_eq] at hrange
  omega

/-- A digit in front of digits, a separator between them or not. -/
lemma forall_lt_of_bind {c : Char} {rest : Option (List Nat)} {digits : List Nat}
    (hrest : ∀ ds, rest = some ds → ∀ d ∈ ds, d < 10)
    (h : (digitValue? c).bind (fun d => rest.bind fun ds => some (d :: ds)) = some digits) :
    ∀ d ∈ digits, d < 10 := by
  obtain ⟨d, hd, hbind⟩ := Option.bind_eq_some_iff.mp h
  obtain ⟨ds, hds, hcons⟩ := Option.bind_eq_some_iff.mp hbind
  obtain rfl := Option.some.inj hcons
  exact List.forall_mem_cons.mpr ⟨digitValue?_lt hd, hrest ds hds⟩

lemma digitRun?_lt {s : List Char} {digits : List Nat} (h : digitRun? s = some digits) :
    ∀ d ∈ digits, d < 10 := by
  induction s using digitRun?.induct generalizing digits with
  | case1 => simp [digitRun?] at h
  | case2 c =>
    obtain ⟨d, hd, rfl⟩ := Option.map_eq_some_iff.mp h
    simpa using digitValue?_lt hd
  | case3 c rest ih => exact forall_lt_of_bind (fun _ => ih) h
  | case4 c rest hone hrun ih =>
    rw [digitRun?] at h
    · exact forall_lt_of_bind (fun _ => ih) h
    · exact hone
    · exact hrun

lemma ofDigits_lt {digits : List Nat} (h : ∀ d ∈ digits, d < 10) :
    ofDigits digits < 10 ^ digits.length := by
  induction digits using List.reverseRecOn with
  | nil => decide
  | append_singleton digits d ih =>
    have hd := h d (by simp)
    have hrest := ih fun e he => h e (by simp [he])
    rw [ofDigits_append_singleton, List.length_append, List.length_singleton, Nat.pow_succ]
    omega

lemma lt_of_natural? {s : List Char} {n : Nat} (h : natural? s = some n) : n < 10 ^ maxDigits := by
  obtain ⟨digits, hdigits, hn⟩ := Option.bind_eq_some_iff.mp h
  split at hn
  · next hlength =>
    obtain rfl := Option.some.inj hn
    exact Nat.lt_of_lt_of_le (ofDigits_lt (digitRun?_lt hdigits))
      (Nat.pow_le_pow_right (by decide) hlength)
  · contradiction

/-- A text that is a number has no more digits than can be written. -/
lemma natAbs_lt_of_integer? {s : List Char} {i : Int} (h : integer? s = some i) :
    i.natAbs < 10 ^ maxDigits := by
  unfold integer? at h
  split at h
  · obtain ⟨j, hj, rfl⟩ := Option.map_eq_some_iff.mp h
    obtain ⟨n, hn, hj⟩ := Option.bind_eq_some_iff.mp hj
    obtain rfl := Option.some.inj hj
    rw [Int.natAbs_neg]
    exact lt_of_natural? hn
  · obtain ⟨n, hn, rfl⟩ := Option.map_eq_some_iff.mp h
    exact lt_of_natural? hn
  · obtain ⟨n, hn, rfl⟩ := Option.map_eq_some_iff.mp h
    exact lt_of_natural? hn

/-- The text of an integer, unless this takes more digits than a text may have. The sign is none of
them. -/
def decimal? (i : Int) : Option String :=
  if (Nat.toDigits 10 i.natAbs).length ≤ maxDigits then some (decimal i) else none

theorem decimal?_eq_some_iff {i : Int} :
    decimal? i = some (decimal i) ↔ i.natAbs < 10 ^ maxDigits := by
  rw [← Nat.length_toDigits_le_iff (by decide) (by decide), decimal?]
  split
  · next h => exact iff_of_true rfl h
  · next h => simpa using h

lemma digitValue?_digitChar : ∀ d < 10, digitValue? (Nat.digitChar d) = some d := by decide

/-- The digits of a natural number, the most significant first. -/
lemma exists_digits (n : Nat) :
    ∃ digits, Nat.toDigits 10 n = digits.map Nat.digitChar ∧ ofDigits digits = n ∧
      digits ≠ [] ∧ ∀ d ∈ digits, d < 10 := by
  induction n using Nat.strongRecOn with
  | ind n ih =>
    by_cases hn : n < 10
    · exact ⟨[n], Nat.toDigits_of_lt_base hn, Nat.zero_add n, List.cons_ne_nil n [], by simpa using hn⟩
    · obtain ⟨digits, hchars, hvalue, hne, hlt⟩ := ih (n / 10) (by omega)
      refine ⟨digits ++ [n % 10], ?_, ?_, by simp, ?_⟩
      · rw [Nat.toDigits_of_base_le (by decide) (by omega), hchars, List.map_append,
          List.map_singleton]
      · rw [ofDigits_append_singleton, hvalue]
        omega
      · intro d hd
        rcases List.mem_append.mp hd with hd | hd
        · exact hlt d hd
        · obtain rfl := List.mem_singleton.mp hd
          exact Nat.mod_lt n (by decide)

/-- What holds of the ten digits holds of every character of a natural number. -/
lemma forall_toDigits {P : Char → Prop} (hdigit : ∀ d < 10, P (Nat.digitChar d)) (n : Nat) :
    ∀ c ∈ Nat.toDigits 10 n, P c := by
  obtain ⟨digits, hchars, -, -, hlt⟩ := exists_digits n
  intro c hc
  rw [hchars] at hc
  obtain ⟨d, hd, rfl⟩ := List.mem_map.mp hc
  exact hdigit d (hlt d hd)

lemma forall_decimalChars {P : Char → Prop} (hsign : P '-')
    (hdigit : ∀ d < 10, P (Nat.digitChar d)) (i : Int) : ∀ c ∈ decimalChars i, P c := by
  cases i with
  | ofNat n => exact forall_toDigits hdigit n
  | negSucc n => exact List.forall_mem_cons.mpr ⟨hsign, forall_toDigits hdigit (n + 1)⟩

lemma digitRun?_map_digitChar {digits : List Nat} (hne : digits ≠ []) (hlt : ∀ d ∈ digits, d < 10) :
    digitRun? (digits.map Nat.digitChar) = some digits := by
  induction digits with
  | nil => exact absurd rfl hne
  | cons d rest ih =>
    have hd := digitValue?_digitChar d (hlt d List.mem_cons_self)
    cases rest with
    | nil => simp [digitRun?, hd]
    | cons e rest =>
      have hunderscore : ∀ e < 10, Nat.digitChar e ≠ '_' := by decide
      have he := hunderscore e (hlt e (by simp))
      have hrest := ih (List.cons_ne_nil e rest) fun f hf => hlt f (List.mem_cons_of_mem d hf)
      rw [List.map_cons] at hrest
      simp [digitRun?, he, hd, hrest]

/-- What is written is read back. -/
theorem natural?_toDigits {n : Nat} (h : n < 10 ^ maxDigits) :
    natural? (Nat.toDigits 10 n) = some n := by
  have hmost : (Nat.toDigits 10 n).length ≤ maxDigits := by
    rwa [Nat.length_toDigits_le_iff (by decide) (by decide)]
  obtain ⟨digits, hchars, hvalue, hne, hlt⟩ := exists_digits n
  rw [hchars, List.length_map] at hmost
  rw [natural?, hchars, digitRun?_map_digitChar hne hlt]
  simp [hmost, hvalue]

/-- Without a sign a text is a natural number, if it is a number at all. -/
lemma integer?_of_head {s : List Char} (h : ∀ c ∈ s.head?, c ≠ '-' ∧ c ≠ '+') :
    integer? s = (natural? s).map Int.ofNat := by
  unfold integer?
  split
  · exact absurd rfl (h '-' rfl).1
  · exact absurd rfl (h '+' rfl).2
  · rfl

theorem integer?_decimalChars {i : Int} (h : i.natAbs < 10 ^ maxDigits) :
    integer? (decimalChars i) = some i := by
  cases i with
  | ofNat n =>
    have hunsigned : ∀ c ∈ Nat.toDigits 10 n, c ≠ '-' ∧ c ≠ '+' := forall_toDigits (by decide) n
    have hhead : ∀ c ∈ (Nat.toDigits 10 n).head?, c ≠ '-' ∧ c ≠ '+' :=
      fun c hc => hunsigned c (List.mem_of_head? hc)
    have hread : natural? (Nat.toDigits 10 n) = some n := natural?_toDigits h
    rw [decimalChars, integer?_of_head hhead, hread]
    rfl
  | negSucc n =>
    have hread : natural? (Nat.toDigits 10 (n + 1)) = some (n + 1) := natural?_toDigits h
    rw [decimalChars, integer?, hread]
    rfl

end ServiceDescription.Text
