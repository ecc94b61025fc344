import Mathlib.Data.List.Basic
import ServiceDescription.Xml.Heading

/-! The declaration of a document seen one octet at a time. Whatever an encoding makes of the other
characters, as long as it writes those of ASCII as themselves and no other one with them, the
declaration says the same before the text is decoded. -/
namespace ServiceDescription.Xml
open Markup

/-- A text of characters that ASCII has. -/
def IsAscii (s : List Char) : Prop := ∀ c ∈ s, c.toNat < 128

instance (s : List Char) : Decidable (IsAscii s) :=
  List.decidableBAll (fun c : Char => c.toNat < 128) s

/-- A character is written as itself if ASCII has it, and otherwise with characters that ASCII does
not have. -/
structure Spread (w : Char → List Char) : Prop where
  ascii : ∀ c, c.toNat < 128 → w c = [c]
  beyond : ∀ c, 128 ≤ c.toNat → ∀ d ∈ w c, 128 ≤ d.toNat
  ne_nil : ∀ c, w c ≠ []

namespace Spread
variable {w : Char → List Char} (h : Spread w)
include h

/-- A text begins with a character of ASCII or with another one, however it is written. -/
lemma cases_head (s : List Char) :
    s = [] ∨
      (∃ c rest, s = c :: rest ∧ c.toNat < 128 ∧ s.flatMap w = c :: rest.flatMap w) ∨
      ∃ c rest d more, s = c :: rest ∧ 128 ≤ c.toNat ∧ 128 ≤ d.toNat ∧
        s.flatMap w = d :: (more ++ rest.flatMap w) ∧ ∀ e ∈ more, 128 ≤ e.toNat := by
  cases s with
  | nil => exact .inl rfl
  | cons c rest =>
    rcases Nat.lt_or_ge c.toNat 128 with hc | hc
    · exact .inr (.inl ⟨c, rest, rfl, hc, by rw [List.flatMap_cons, h.ascii c hc]; rfl⟩)
    · obtain ⟨d, more, hw⟩ := List.exists_cons_of_ne_nil (h.ne_nil c)
      have hmem : ∀ e ∈ d :: more, 128 ≤ e.toNat := hw ▸ h.beyond c hc
      refine .inr (.inr ⟨c, rest, d, more, rfl, hc, hmem d List.mem_cons_self, ?_, fun e he =>
        hmem e (List.mem_cons_of_mem d he)⟩)
      rw [List.flatMap_cons, hw, List.cons_append]

lemma flatMap_eq_self {s : List Char} (hs : IsAscii s) : s.flatMap w = s := by
  induction s with
  | nil => rfl
  | cons c s ih =>
    obtain ⟨hc, hs⟩ := List.forall_mem_cons.mp hs
    rw [List.flatMap_cons, h.ascii c hc, ih hs]
    rfl

/-- Only ASCII is written in ASCII. -/
lemma isAscii_of_flatMap {s : List Char} (hs : IsAscii (s.flatMap w)) : IsAscii s := by
  intro c hc
  by_contra hlt
  obtain ⟨d, more, hw⟩ := List.exists_cons_of_ne_nil (h.ne_nil c)
  have hd : d ∈ w c := hw ▸ List.mem_cons_self
  have := h.beyond c (Nat.le_of_not_lt hlt) d hd
  have := hs d (List.mem_flatMap.mpr ⟨c, hc, hd⟩)
  omega

/-- A test that only ASCII passes is passed by the same texts, and as they are. -/
lemma test_flatMap {p : List Char → Bool} (hp : ∀ s, p s = true → IsAscii s) (s : List Char) :
    p (s.flatMap w) = p s := by
  refine Bool.eq_iff_iff.mpr ⟨fun hw => ?_, fun hs => ?_⟩
  · rwa [h.flatMap_eq_self (h.isAscii_of_flatMap (hp _ hw))] at hw
  · rwa [h.flatMap_eq_self (hp s hs)]

lemma after?_flatMap {pre : List Char} (hpre : IsAscii pre) (s : List Char) :
    after? pre (s.flatMap w) = (after? pre s).map (·.flatMap w) := by
  induction pre generalizing s with
  | nil => rfl
  | cons p pre ih =>
    obtain ⟨hp, hpre⟩ := List.forall_mem_cons.mp hpre
    rcases h.cases_head s with rfl | ⟨c, rest, rfl, -, hw⟩ | ⟨c, rest, d, more, rfl, hc, hd, hw, -⟩
    · rfl
    · rw [hw, after?, after?]
      split
      · exact ih hpre rest
      · rfl
    · -- neither the character nor what it is written with is the next one of `pre`
      have hpc : p ≠ c := fun he => by subst he; omega
      have hpd : p ≠ d := fun he => by subst he; omega
      rw [hw, after?, after?, if_neg hpc, if_neg hpd]
      rfl

omit h in
lemma isSpace_eq_false {c : Char} (hc : 128 ≤ c.toNat) : isSpace c = false := by
  have hne : ∀ d : Char, d.toNat < 128 → c ≠ d := fun d hd he => by subst he; omega
  simp [isSpace, hne ' ' (by decide), hne '\t' (by decide), hne '\n' (by decide),
    hne '\r' (by decide)]

lemma skipSpace_flatMap (s : List Char) : skipSpace (s.flatMap w) = (skipSpace s).flatMap w := by
  induction s with
  | nil => rfl
  | cons c s ih =>
    rcases h.cases_head (c :: s) with hs | ⟨_, _, hs, hc, hw⟩ | ⟨_, _, d, more, hs, hc, hd, hw, -⟩
    · cases hs
    · obtain ⟨rfl, rfl⟩ := List.cons.inj hs
      rw [hw, skipSpace, skipSpace, List.dropWhile_cons, List.dropWhile_cons]
      split
      · exact ih
      · exact hw.symm
    · obtain ⟨rfl, rfl⟩ := List.cons.inj hs
      rw [hw, skipSpace, skipSpace, List.dropWhile_cons_of_neg (by simp [isSpace_eq_false hd]),
        List.dropWhile_cons_of_neg (by simp [isSpace_eq_false hc]), hw]

lemma space?_flatMap (s : List Char) : space? (s.flatMap w) = (space? s).map (·.flatMap w) := by
  rcases h.cases_head s with rfl | ⟨c, rest, rfl, -, hw⟩ | ⟨c, rest, d, more, rfl, hc, hd, hw, -⟩
  · rfl
  · rw [hw, space?, space?, h.skipSpace_flatMap]
    split <;> rfl
  · rw [hw, space?, space?, isSpace_eq_false hc, isSpace_eq_false hd]
    rfl

omit h in
lemma until?_cons_ne {q c : Char} (hc : q ≠ c) (s : List Char) :
    until? [q] (c :: s) = (until? [q] s).map fun found => (c :: found.1, found.2) := by
  rw [until?, after?, if_neg hc]

omit h in
lemma until?_cons_self (q : Char) (s : List Char) : until? [q] (q :: s) = some ([], s) := by
  simp [until?, after?]

omit h in
lemma until?_append {q : Char} {more : List Char} (hmore : ∀ c ∈ more, q ≠ c) (s : List Char) :
    until? [q] (more ++ s) = (until? [q] s).map fun found => (more ++ found.1, found.2) := by
  induction more with
  | nil => simp
  | cons c more ih =>
    obtain ⟨hc, hmore⟩ := List.forall_mem_cons.mp hmore
    rw [List.cons_append, until?_cons_ne hc, ih hmore, Option.map_map]
    rfl

/-- A text up to a quote, and the text after it. -/
lemma until?_flatMap {q : Char} (hq : q.toNat < 128) (s : List Char) :
    until? [q] (s.flatMap w) =
      (until? [q] s).map fun found => (found.1.flatMap w, found.2.flatMap w) := by
  induction s with
  | nil => rfl
  | cons c s ih =>
    rcases Nat.lt_or_ge c.toNat 128 with hc | hc
    · rw [List.flatMap_cons, h.ascii c hc, List.singleton_append]
      by_cases hqc : q = c
      · subst hqc
        rw [until?_cons_self, until?_cons_self]
        rfl
      · rw [until?_cons_ne hqc, until?_cons_ne hqc, ih, Option.map_map, Option.map_map]
        refine congrArg (Option.map · _) (funext fun found => ?_)
        simp [h.ascii c hc]
    · have hne : ∀ d ∈ w c, q ≠ d := fun d hd he => by
        have := h.beyond c hc d hd
        subst he
        omega
      have hqc : q ≠ c := fun he => by subst he; omega
      rw [List.flatMap_cons, until?_append hne, until?_cons_ne hqc, ih, Option.map_map,
        Option.map_map]
      rfl

lemma literal?_flatMap (s : List Char) :
    literal? (s.flatMap w) =
      (literal? s).map fun found => (found.1.flatMap w, found.2.flatMap w) := by
  rcases h.cases_head s with rfl | ⟨c, rest, rfl, hc, hw⟩ | ⟨c, rest, d, more, rfl, hc, hd, hw, -⟩
  · rfl
  · rw [hw]
    by_cases hdouble : c = '"'
    · subst hdouble
      exact h.until?_flatMap hc rest
    · by_cases hsingle : c = '\''
      · subst hsingle
        exact h.until?_flatMap hc rest
      · simp [literal?, hdouble, hsingle]
  · have hne : ∀ e : Char, 128 ≤ e.toNat → e ≠ '"' ∧ e ≠ '\'' := by
      refine fun e he => ⟨?_, ?_⟩ <;> rintro rfl <;> exact absurd he (by decide)
    rw [hw]
    simp [literal?, hne c hc, hne d hd]

lemma setting?_flatMap {key : String} (hkey : IsAscii key.toList) (s : List Char) :
    Heading.setting? key (s.flatMap w) =
      (Heading.setting? key s).map fun found => (found.1.flatMap w, found.2.flatMap w) := by
  rw [Heading.setting?, Heading.setting?, h.space?_flatMap]
  cases space? s with
  | none => rfl
  | some s =>
    simp only [Option.map_some, Option.bind_eq_bind, Option.bind_some, h.after?_flatMap hkey]
    cases after? key.toList s with
    | none => rfl
    | some s =>
      have hequals : IsAscii ['='] := by simp [IsAscii]
      simp only [Option.map_some, Option.bind_some, h.skipSpace_flatMap,
        h.after?_flatMap hequals]
      cases after? ['='] (skipSpace s) with
      | none => rfl
      | some s => simp only [Option.map_some, Option.bind_some, h.skipSpace_flatMap, h.literal?_flatMap]

end Spread

namespace Heading

lemma lt_of_isDigit {c : Char} (hc : c.isDigit = true) : c.toNat < 128 := by
  have hle : c.toNat ≤ 57 := of_decide_eq_true (Bool.and_eq_true_iff.mp hc).2
  omega

lemma lt_of_isAlpha {c : Char} (hc : c.isAlpha = true) : c.toNat < 128 := by
  rcases Bool.or_eq_true_iff.mp hc with hupper | hlower
  · have hle : c.toNat ≤ 90 := (of_decide_eq_true hupper).2
    omega
  · have hle : c.toNat ≤ 122 := of_decide_eq_true (Bool.and_eq_true_iff.mp hlower).2
    omega

lemma isAscii_of_isVersion {v : List Char} (hv : isVersion v = true) : IsAscii v := by
  unfold isVersion at hv
  split at hv
  · next minor =>
    refine List.forall_mem_cons.mpr ⟨by decide, List.forall_mem_cons.mpr ⟨by decide, ?_⟩⟩
    exact fun c hc => lt_of_isDigit (List.all_eq_true.mp hv c hc)
  · cases hv

lemma isAscii_of_isEncoding {e : List Char} (he : isEncoding e = true) : IsAscii e := by
  cases e with
  | nil => cases he
  | cons c rest =>
    rw [isEncoding, Bool.and_eq_true] at he
    refine List.forall_mem_cons.mpr ⟨lt_of_isAlpha he.1, fun d hd => ?_⟩
    have htest := List.all_eq_true.mp he.2 d hd
    simp only [Char.isAlphanum, Bool.or_eq_true, decide_eq_true_eq] at htest
    rcases htest with (((halpha | hdigit) | rfl) | rfl) | rfl
    · exact lt_of_isAlpha halpha
    · exact lt_of_isDigit hdigit
    all_goals decide

/-- The encoding that a document declares for itself. -/
def declaredName? (s : List Char) : Option String :=
  ((keyword? s).bind body?).bind (·.1.encoding)

end Heading

namespace Spread
variable {w : Char → List Char} (h : Spread w)
include h

lemma encoding?_flatMap (s : List Char) :
    Heading.encoding? (s.flatMap w) =
      (Heading.encoding? s).map fun found => (found.1, found.2.flatMap w) := by
  rw [Heading.encoding?, Heading.encoding?, h.setting?_flatMap (by decide)]
  cases Heading.setting? "encoding" s with
  | none => rfl
  | some found =>
    obtain ⟨e, s⟩ := found
    simp only [Option.map_some, h.test_flatMap fun _ => Heading.isAscii_of_isEncoding]
    by_cases he : Heading.isEncoding e = true
    · rw [if_pos he, if_pos he, h.flatMap_eq_self (Heading.isAscii_of_isEncoding he)]
      rfl
    · rw [if_neg he, if_neg he]
      rfl

lemma standalone?_flatMap (s : List Char) :
    Heading.standalone? (s.flatMap w) =
      (Heading.standalone? s).map fun found => (found.1, found.2.flatMap w) := by
  have hword : ∀ word : String, IsAscii word.toList → ∀ v : List Char,
      (v.flatMap w = word.toList) = (v = word.toList) := by
    intro word hword v
    have htest := h.test_flatMap (p := (· = word.toList)) (fun s hs => by
      rw [of_decide_eq_true hs]
      exact hword) v
    simpa using htest
  rw [Heading.standalone?, Heading.standalone?, h.setting?_flatMap (by decide)]
  cases Heading.setting? "standalone" s with
  | none => rfl
  | some found =>
    obtain ⟨v, s⟩ := found
    simp only [Option.map_some, hword "yes" (by decide), hword "no" (by decide)]
    split
    · rfl
    · split <;> rfl

/-- The settings say the same before the text is decoded. -/
lemma body?_flatMap (s : List Char) :
    Heading.body? (s.flatMap w) =
      (Heading.body? s).map fun found => (found.1, found.2.flatMap w) := by
  rw [Heading.body?, Heading.body?, h.setting?_flatMap (by decide)]
  cases Heading.setting? "version" s with
  | none => rfl
  | some found =>
    obtain ⟨v, s⟩ := found
    simp only [Option.map_some, Option.bind_eq_bind, Option.bind_some, h.encoding?_flatMap]
    cases Heading.encoding? s with
    | none => rfl
    | some found =>
      obtain ⟨e, s⟩ := found
      simp only [Option.map_some, Option.bind_some, h.standalone?_flatMap]
      cases Heading.standalone? s with
      | none => rfl
      | some found =>
        obtain ⟨b, s⟩ := found
        have hend : IsAscii ['?', '>'] := by simp [IsAscii]
        simp only [Option.map_some, Option.bind_some, h.skipSpace_flatMap, h.after?_flatMap hend]
        cases after? ['?', '>'] (skipSpace s) with
        | none => rfl
        | some s =>
          simp only [Option.map_some, Option.bind_some,
            h.test_flatMap fun _ => Heading.isAscii_of_isVersion]
          by_cases hv : Heading.isVersion v = true
          · rw [if_pos hv, if_pos hv, h.flatMap_eq_self (Heading.isAscii_of_isVersion hv)]
            rfl
          · rw [if_neg hv, if_neg hv]
            rfl

lemma keyword?_flatMap (s : List Char) :
    Heading.keyword? (s.flatMap w) = (Heading.keyword? s).map (·.flatMap w) := by
  rw [Heading.keyword?, Heading.keyword?, h.after?_flatMap (by decide)]
  cases after? "<?xml".toList s with
  | none => rfl
  | some s =>
    rcases h.cases_head s with rfl | ⟨c, rest, rfl, -, hw⟩ | ⟨c, rest, d, more, rfl, hc, hd, hw, -⟩
    · rfl
    · simp only [Option.map_some, hw]
      split
      · rw [Option.map_some, hw]
      · rfl
    · simp only [Option.map_some, hw, isSpace_eq_false hc, isSpace_eq_false hd]
      rfl

/-- A document declares one encoding, before it is decoded and after. -/
theorem declaredName?_flatMap (s : List Char) :
    Heading.declaredName? (s.flatMap w) = Heading.declaredName? s := by
  rw [Heading.declaredName?, Heading.declaredName?, h.keyword?_flatMap]
  cases Heading.keyword? s with
  | none => rfl
  | some s =>
    rw [Option.map_some, Option.bind_some, Option.bind_some, h.body?_flatMap]
    cases Heading.body? s with
    | none => rfl
    | some found => rfl

end Spread
end ServiceDescription.Xml
