import Mathlib.Tactic.IntervalCases
import Mathlib.Tactic.SplitIfs
import ServiceDescription.Proofs.Text.Integer
import ServiceDescription.Rendering.Layout
import ServiceDescription.Rendering.Reader

/-! What is written is read back. In any layout the text of a value is read as this value, provided
that its objects do not repeat a key and its integers are not too long. Reading takes one character
at a time, so the text of a value is followed character by character from the place where a value has
to begin to the place where it is complete, whatever is open around it. -/
namespace ServiceDescription

namespace Json

/-- The values that can be read back. -/
inductive Readable : Json → Prop
  | null : Readable null
  | bool (b : Bool) : Readable (bool b)
  | number {i : Int} (h : i.natAbs < 10 ^ Text.maxDigits) : Readable (number i)
  | text (s : String) : Readable (text s)
  | array {items : List Json} (h : ∀ item ∈ items, Readable item) : Readable (array items)
  | object {fields : List (String × Json)} (hkeys : (fields.map (·.1)).Nodup)
    (h : ∀ field ∈ fields, Readable field.2) : Readable (object fields)

/-- A key that is new comes last. -/
lemma put_of_nodup {key : String} {value : Json} {before fields : List (String × Json)}
    (h : ((before ++ (key, value) :: fields).map (·.1)).Nodup) :
    put key value before = before ++ [(key, value)] := by
  induction before with
  | nil => rfl
  | cons field before ih =>
    rw [List.cons_append, List.map_cons, List.nodup_cons] at h
    have hne : field.1 ≠ key := by
      rintro rfl
      exact h.1 (by simp)
    rw [put, if_neg hne, ih h.2, List.cons_append]

/-- The places at which blanks count for nothing. -/
inductive Place.PassesBlanks : Place → Prop
  | value : PassesBlanks .value
  | firstItem : PassesBlanks .firstItem
  | firstKey : PassesBlanks .firstKey
  | key (fields : List (String × Json)) : PassesBlanks (.key fields)

namespace State

/-- All the characters of a text, one after the other. -/
def run (cs : List Char) (s : State) : Option State := cs.foldlM step s

@[simp] lemma run_nil (s : State) : run [] s = some s := rfl

@[simp] lemma run_cons (c : Char) (cs : List Char) (s : State) :
    run (c :: cs) s = (s.step c).bind (run cs) := rfl

@[simp] lemma run_singleton (c : Char) (s : State) : run [c] s = s.step c := by
  rw [run_cons]
  cases s.step c <;> rfl

@[simp] lemma run_append (cs ds : List Char) (s : State) :
    run (cs ++ ds) s = (run cs s).bind (run ds) := List.foldlM_append

section Escapes
variable (p : Purpose) (before : List Char) (stack : List Frame)

lemma hexDigit?_digitChar : ∀ d < 16, hexDigit? (Nat.digitChar d) = some d := by decide

/-- The last of several hexadecimal digits. -/
lemma hex_succ (width n : Nat) :
    Text.hex (width + 2) n = Text.hex (width + 1) (n / 16) ++ [Nat.digitChar (n % 16)] := by
  unfold Text.hex
  by_cases h : n < 16
  · rw [Nat.div_eq_of_lt h, Nat.mod_eq_of_lt h, Nat.toDigits_of_lt_base h,
      Nat.toDigits_of_lt_base (by decide)]
    simp [List.replicate_succ']
  · rw [Nat.toDigits_of_base_le (by decide) (by omega)]
    simp

/-- A unit of UTF-16 is written with four digits. -/
lemma hex_four {n : Nat} (h : n < 0x10000) :
    Text.hex 4 n =
      [n / 16 / 16 / 16, n / 16 / 16 % 16, n / 16 % 16, n % 16].map Nat.digitChar := by
  have hfirst : n / 16 / 16 / 16 < 16 := by omega
  have hone : Text.hex 1 (n / 16 / 16 / 16) = [Nat.digitChar (n / 16 / 16 / 16)] := by
    unfold Text.hex
    rw [Nat.toDigits_of_lt_base hfirst]
    rfl
  rw [hex_succ, hex_succ, hex_succ, hone]
  rfl

/-- The state after the characters of a text up to here. -/
def inText (t : List Char × Escape) : State := ⟨.text p t.1 t.2, stack⟩

lemma step_digit (high : Option Nat) (digits : List Nat) {d : Nat} (hd : d < 16) :
    step ⟨.text p before (.unit high digits), stack⟩ (Nat.digitChar d) =
      (if digits.length < 3 then some (before, .unit high (digits ++ [d]))
        else afterUnit high (ofUnit (digits ++ [d])) before).map (inText p stack) := by
  show ((hexDigit? (Nat.digitChar d)).bind _).map (inText p stack) = _
  rw [hexDigit?_digitChar d hd, Option.bind_some]

lemma step_unit (high : Option Nat) {digits : List Nat} (hdigits : digits.length < 3) {d : Nat}
    (hd : d < 16) :
    step ⟨.text p before (.unit high digits), stack⟩ (Nat.digitChar d) =
      some ⟨.text p before (.unit high (digits ++ [d])), stack⟩ := by
  rw [step_digit p before stack high digits hd, if_pos hdigits]
  rfl

lemma step_unitEnd (high : Option Nat) {digits : List Nat} (hdigits : digits.length = 3) {d : Nat}
    (hd : d < 16) :
    step ⟨.text p before (.unit high digits), stack⟩ (Nat.digitChar d) =
      (afterUnit high (ofUnit (digits ++ [d])) before).map (inText p stack) := by
  rw [step_digit p before stack high digits hd, if_neg (by omega)]

/-- The four digits of a unit. -/
lemma run_unit (high : Option Nat) {n : Nat} (h : n < 0x10000) :
    run (Text.hex 4 n) ⟨.text p before (.unit high []), stack⟩ =
      (afterUnit high n before).map (inText p stack) := by
  have hunit : ofUnit [n / 16 / 16 / 16, n / 16 / 16 % 16, n / 16 % 16, n % 16] = n := by
    simp only [ofUnit, List.foldl_cons, List.foldl_nil]
    omega
  rw [hex_four h]
  simp only [List.map_cons, List.map_nil]
  rw [run_cons, step_unit _ _ _ _ (by simp) (by omega), Option.bind_some,
    run_cons, step_unit _ _ _ _ (by simp) (by omega), Option.bind_some,
    run_cons, step_unit _ _ _ _ (by simp) (by omega), Option.bind_some,
    run_singleton, step_unitEnd _ _ _ _ (by simp) (by omega)]
  simp only [List.nil_append, List.cons_append, hunit]

lemma run_escapeUnit {n : Nat} (h : n < 0x10000) :
    run (escapeUnit n) ⟨.text p before .plain, stack⟩ =
      (afterUnit none n before).map (inText p stack) := by
  rw [← run_unit p before stack none h]
  rfl

lemma run_lowUnit {high n : Nat} (h : n < 0x10000) :
    run (escapeUnit n) ⟨.text p before (.pair high), stack⟩ =
      (afterUnit (some high) n before).map (inText p stack) := by
  rw [← run_unit p before stack (some high) h]
  rfl

/-- Outside the surrogates a unit is a character. -/
lemma afterUnit_character {n : Nat} (h : n < 0xD800 ∨ 0xDFFF < n) :
    afterUnit none n before = some (before ++ [Char.ofNat n], .plain) := by
  unfold afterUnit
  simp only
  rw [if_neg (by simp; omega), if_neg (by simp; omega)]

lemma afterUnit_high {n : Nat} (h : n < 0x400) :
    afterUnit none (0xD800 + n) before = some (before, .pair (0xD800 + n)) := by
  unfold afterUnit
  simp only
  rw [if_pos (by simp; omega)]

lemma afterUnit_low (m : Nat) {n : Nat} (h : n < 0x400) :
    afterUnit (some (0xD800 + m)) (0xDC00 + n) before =
      some (before ++ [Char.ofNat (0x10000 + m * 0x400 + n)], .plain) := by
  unfold afterUnit
  simp only
  rw [if_pos (by simp; omega), Nat.add_sub_cancel_left, Nat.add_sub_cancel_left]

/-- What is written for a character is read as this character. -/
theorem run_escapeChar (c : Char) :
    run (escapeChar c) ⟨.text p before .plain, stack⟩ =
      some ⟨.text p (before ++ [c]) .plain, stack⟩ := by
  have hvalid : c.toNat < 0xD800 ∨ 0xDFFF < c.toNat ∧ c.toNat < 0x110000 := c.valid
  have hself : Char.ofNat c.toNat = c := Char.ofNat_toNat c
  have hcode : ∀ n, c.toNat = n → c = Char.ofNat n := by
    rintro n rfl
    exact hself.symm
  unfold escapeChar
  simp only
  split_ifs with hquote hline hreturn htab hback hform hcontrol hascii hunit
  · rcases Bool.or_eq_true_iff.mp hquote with h | h
    · rw [of_decide_eq_true h]
      rfl
    · rw [of_decide_eq_true h]
      rfl
  · subst hline
    rfl
  · subst hreturn
    rfl
  · subst htab
    rfl
  · rw [hcode _ hback]
    rfl
  · rw [hcode _ hform]
    rfl
  · rw [run_escapeUnit _ _ _ (by omega), afterUnit_character _ (by omega), hself]
    rfl
  · obtain ⟨hmark, hslash⟩ := not_or.mp (mt Bool.or_eq_true_iff.mpr hquote)
    rw [decide_eq_true_eq] at hmark hslash
    rw [run_singleton]
    show (if c = '"' then _ else ((if c = '\\' then _ else _ : Option _).map _)) = _
    rw [if_neg hmark, if_neg hslash, if_neg hcontrol]
    rfl
  · rw [run_escapeUnit _ _ _ hunit, afterUnit_character _ (by omega), hself]
    rfl
  · have hpair : 0x10000 + (c.toNat - 0x10000) / 0x400 * 0x400 + (c.toNat - 0x10000) % 0x400 =
        c.toNat := by
      omega
    rw [run_append, run_escapeUnit _ _ _ (by omega), afterUnit_high _ (by omega), Option.map_some,
      Option.bind_some, inText, run_lowUnit _ _ _ (by omega), afterUnit_low _ _ (by omega), hpair,
      hself]
    rfl

theorem run_escapeChars (s : List Char) :
    run (s.flatMap escapeChar) ⟨.text p before .plain, stack⟩ =
      some ⟨.text p (before ++ s) .plain, stack⟩ := by
  induction s generalizing before with
  | nil => simp
  | cons c s ih =>
    rw [List.flatMap_cons, run_append, run_escapeChar, Option.bind_some, ih, List.append_assoc]
    rfl

/-- A text behind its opening quote, up to its closing one. -/
theorem run_textEnd (s : String) :
    run (s.toList.flatMap escapeChar ++ ['"']) ⟨.text p [] .plain, stack⟩ =
      some ⟨endText s.toList p, stack⟩ := by
  rw [run_append, run_escapeChars, Option.bind_some, run_singleton]
  rfl

end Escapes

section Digits
variable {stack : List Frame} {isNegative : Bool}

lemma digit?_digitChar : ∀ d < 10, digit? (Nat.digitChar d) = some d := by decide

lemma step_numberDigit {digits : List Nat} (hdigits : digits ≠ [0]) {d : Nat} (hd : d < 10) :
    step ⟨.number isNegative digits, stack⟩ (Nat.digitChar d) =
      some ⟨.number isNegative (digits ++ [d]), stack⟩ := by
  simp only [step, digit?_digitChar d hd]
  exact if_neg hdigits

lemma step_numberEnd {digits : List Nat} {j : Json} (hj : number? isNegative digits = some j)
    {c : Char} (hc : digit? c = none) :
    step ⟨.number isNegative digits, stack⟩ c = afterValue j stack c := by
  simp only [step, hc, hj]
  rfl

/-- The digits of a number, from a state in which the first one may come. -/
lemma run_toDigits {s : State}
    (h : ∀ d < 10, s.step (Nat.digitChar d) = some ⟨.number isNegative [d], stack⟩) (n : Nat) :
    ∃ digits, run (Nat.toDigits 10 n) s = some ⟨.number isNegative digits, stack⟩ ∧
      Text.ofDigits digits = n ∧ digits.length = (Nat.toDigits 10 n).length := by
  induction n using Nat.strongRecOn with
  | ind n ih =>
    by_cases hn : n < 10
    · rw [Nat.toDigits_of_lt_base hn]
      refine ⟨[n], ?_, ?_, rfl⟩
      · rw [run_singleton, h n hn]
      · exact Nat.zero_add n
    · obtain ⟨digits, hrun, hvalue, hlength⟩ := ih (n / 10) (by omega)
      -- a digit after a leading zero would be refused, but the digits so far are a positive number
      have hzero : digits ≠ [0] := by
        rintro rfl
        change 0 = n / 10 at hvalue
        omega
      rw [Nat.toDigits_of_base_le (by decide) (by omega)]
      refine ⟨digits ++ [n % 10], ?_, ?_, ?_⟩
      · rw [run_append, hrun, Option.bind_some, run_singleton, step_numberDigit hzero (by omega)]
      · rw [Text.ofDigits_append_singleton, hvalue]
        omega
      · rw [List.length_append, List.length_append, hlength]
        rfl

end Digits

/-- The state is one in which a value may begin, with this open around it. -/
def Opens (s : State) (stack : List Frame) : Prop :=
  ∀ c, isBlank c = false → c ≠ ']' → s.step c = startValue stack c

lemma opens_value (stack : List Frame) : Opens ⟨.value, stack⟩ stack := by
  intro c hblank _
  exact if_neg (by simp [hblank])

lemma opens_firstItem (stack : List Frame) : Opens ⟨.firstItem, stack⟩ (.array [] :: stack) := by
  intro c hblank hbracket
  refine (if_neg ?_).trans (if_neg hbracket)
  simp [hblank]

/-- The state is one in which a value is complete, with this open around it. A number is complete
only when something else than a digit follows. -/
inductive Ends (j : Json) (stack : List Frame) : State → Prop
  | after : Ends j stack ⟨.after j, stack⟩
  | number {isNegative : Bool} {digits : List Nat} (h : number? isNegative digits = some j) :
    Ends j stack ⟨.number isNegative digits, stack⟩

lemma Ends.step {j : Json} {stack : List Frame} {s : State} (h : Ends j stack s) {c : Char}
    (hc : digit? c = none) : s.step c = afterValue j stack c := by
  cases h with
  | after => rfl
  | number h => exact step_numberEnd h hc

lemma Ends.finish? {j : Json} {s : State} (h : Ends j [] s) : s.finish? = some j := by
  cases h with
  | after => rfl
  | number h => exact h

section Values
variable {l : Layout} {s : State} {stack : List Frame} {j : Json}

lemma startValue_digitChar {d : Nat} (h : d < 10) :
    startValue stack (Nat.digitChar d) = some ⟨.number false [d], stack⟩ := by
  interval_cases d <;> rfl

lemma number?_of_toDigits {n : Nat} (isNegative : Bool) {digits : List Nat}
    (hvalue : Text.ofDigits digits = n) (hlength : digits.length = (Nat.toDigits 10 n).length)
    (h : n < 10 ^ Text.maxDigits) :
    number? isNegative digits = some (number (if isNegative then -(n : Int) else n)) := by
  have hmost : digits.length ≤ Text.maxDigits := by
    rw [hlength, Nat.length_toDigits_le_iff (by decide) (by decide)]
    exact h
  have hsome : digits.isEmpty = false := by
    rw [List.isEmpty_eq_false_iff, ← List.length_pos_iff, hlength]
    exact Nat.length_toDigits_pos
  unfold number?
  rw [hsome, hvalue, Bool.false_or, if_neg (by simpa using hmost)]
  cases isNegative <;> rfl

theorem run_number (hs : Opens s stack) {i : Int} (h : i.natAbs < 10 ^ Text.maxDigits) :
    ∃ s', run (Text.decimalChars i) s = some s' ∧ Ends (number i) stack s' := by
  cases i with
  | ofNat n =>
    have hstart : ∀ d < 10, s.step (Nat.digitChar d) = some ⟨.number false [d], stack⟩ := by
      intro d hd
      have hplain : ∀ d < 10, isBlank (Nat.digitChar d) = false ∧ Nat.digitChar d ≠ ']' := by decide
      rw [hs _ (hplain d hd).1 (hplain d hd).2, startValue_digitChar hd]
    obtain ⟨digits, hrun, hvalue, hlength⟩ := run_toDigits hstart n
    exact ⟨_, hrun, .number (number?_of_toDigits false hvalue hlength h)⟩
  | negSucc n =>
    have hminus : s.step '-' = some ⟨.number true [], stack⟩ := hs '-' rfl (by decide)
    have hstart : ∀ d < 10, step ⟨.number true [], stack⟩ (Nat.digitChar d) =
        some ⟨.number true [d], stack⟩ := by
      intro d hd
      exact step_numberDigit (List.ne_cons_self) hd
    obtain ⟨digits, hrun, hvalue, hlength⟩ := run_toDigits hstart (n + 1)
    refine ⟨_, ?_, .number (number?_of_toDigits true hvalue hlength h)⟩
    rw [Text.decimalChars, run_cons, hminus, Option.bind_some, hrun]

lemma run_textChars (hs : Opens s stack) (t : String) :
    run (textChars t) s = some ⟨.after (text t), stack⟩ := by
  have hquote : s.step '"' = some ⟨.text .value [] .plain, stack⟩ := hs '"' rfl (by decide)
  rw [textChars, List.cons_append, run_cons, hquote, Option.bind_some, run_textEnd, endText,
    String.ofList_toList]

/-- Blanks after a value. -/
lemma Ends.run_blanks (h : Ends j stack s) {cs : List Char} (hcs : ∀ c ∈ cs, isBlank c = true) :
    ∃ s', run cs s = some s' ∧ Ends j stack s' := by
  induction cs generalizing s with
  | nil => exact ⟨s, rfl, h⟩
  | cons c cs ih =>
    have hc : c = ' ' ∨ c = '\t' ∨ c = '\n' ∨ c = '\r' := by
      simpa [isBlank, or_assoc] using hcs c List.mem_cons_self
    have hstep : s.step c = some ⟨.after j, stack⟩ := by
      rcases hc with rfl | rfl | rfl | rfl <;>
      · rw [h.step (by decide)]
        rcases stack with _ | ⟨_ | _, _⟩ <;> rfl
    rw [run_cons, hstep, Option.bind_some]
    exact ih .after fun d hd => hcs d (List.mem_cons_of_mem c hd)

/-- Blanks before a value, a key or a bracket. -/
lemma run_gap {place : Place} (hplace : place.PassesBlanks) {cs : List Char}
    (hcs : ∀ c ∈ cs, isBlank c = true) : run cs ⟨place, stack⟩ = some ⟨place, stack⟩ := by
  induction cs with
  | nil => rfl
  | cons c cs ih =>
    have hstep : step ⟨place, stack⟩ c = some ⟨place, stack⟩ := by
      cases hplace <;> exact if_pos (hcs c List.mem_cons_self)
    rw [run_cons, hstep, Option.bind_some]
    exact ih fun d hd => hcs d (List.mem_cons_of_mem c hd)

/-- The text of a value is read from wherever a value may begin to where it is complete. -/
def Reads (l : Layout) (j : Json) : Prop :=
  ∀ depth s stack, Opens s stack → ∃ s', run (l.chars depth j) s = some s' ∧ Ends j stack s'

/-- The items of an array after one of them, and the end of the array. -/
lemma run_items {items : List Json} (hitems : ∀ item ∈ items, Reads l item) (depth depth' : Nat)
    {before : List Json} (h : Ends j (.array before :: stack) s) :
    run (l.itemChars depth items ++ l.stop depth' ++ [']']) s =
      some ⟨.after (array (before ++ j :: items)), stack⟩ := by
  induction items generalizing before j s with
  | nil =>
    obtain ⟨s', hrun, hends⟩ := h.run_blanks (l.blank_stop depth')
    rw [Layout.itemChars, List.nil_append, run_append, hrun, Option.bind_some, run_singleton,
      hends.step (by decide)]
    rfl
  | cons item items ih =>
    have hcomma : s.step ',' = some ⟨.value, .array (before ++ [j]) :: stack⟩ :=
      h.step (by decide)
    have hgap : run (l.next depth) ⟨.value, .array (before ++ [j]) :: stack⟩ =
        some ⟨.value, .array (before ++ [j]) :: stack⟩ :=
      run_gap (by constructor) (l.blank_next depth)
    obtain ⟨s', hrun, hends⟩ :=
      hitems item List.mem_cons_self depth _ _ (opens_value (.array (before ++ [j]) :: stack))
    have hrest := ih (fun i hi => hitems i (List.mem_cons_of_mem item hi)) hends
    rw [Layout.itemChars]
    simp only [List.cons_append, List.append_assoc, run_cons, hcomma, Option.bind_some]
    rw [run_append, hgap, Option.bind_some, run_append, hrun, Option.bind_some]
    simpa using hrest

/-- A key, the colon and the value under the key, before anything else. -/
lemma run_field {fields : List (String × Json)} (key : String) (hj : Reads l j) (depth : Nat)
    (hquote : s.step '"' = some ⟨.text (.key fields) [] .plain, stack⟩) :
    ∃ s', Ends j (.object fields key :: stack) s' ∧
      ∀ cs, run (textChars key ++ ':' :: ' ' :: (l.chars depth j ++ cs)) s = run cs s' := by
  have hkey : run (textChars key) s = some ⟨.colon fields key, stack⟩ := by
    rw [textChars, List.cons_append, run_cons, hquote, Option.bind_some, run_textEnd, endText,
      String.ofList_toList]
  have hcolon : ∀ cs, run (':' :: ' ' :: cs) ⟨.colon fields key, stack⟩ =
      run cs ⟨.value, .object fields key :: stack⟩ := fun _ => rfl
  obtain ⟨s', hrun, hends⟩ := hj depth _ _ (opens_value (.object fields key :: stack))
  refine ⟨s', hends, ?_⟩
  intro cs
  rw [run_append, hkey, Option.bind_some, hcolon, run_append, hrun, Option.bind_some]

/-- The fields of an object after one of them, and the end of the object. -/
lemma run_fields {fields : List (String × Json)} (hfields : ∀ field ∈ fields, Reads l field.2)
    (depth depth' : Nat) (before : List (String × Json)) {key : String}
    (hkeys : ((before ++ (key, j) :: fields).map (·.1)).Nodup)
    (h : Ends j (.object before key :: stack) s) :
    run (l.fieldChars depth fields ++ l.stop depth' ++ ['\x7d']) s =
      some ⟨.after (object (before ++ (key, j) :: fields)), stack⟩ := by
  induction fields generalizing before key j s with
  | nil =>
    obtain ⟨s', hrun, hends⟩ := h.run_blanks (l.blank_stop depth')
    rw [Layout.fieldChars, List.nil_append, run_append, hrun, Option.bind_some, run_singleton,
      hends.step (by decide), ← put_of_nodup hkeys]
    rfl
  | cons field fields ih =>
    obtain ⟨nextKey, value⟩ := field
    have hcomma : s.step ',' = some ⟨.key (before ++ [(key, j)]), stack⟩ := by
      rw [h.step (by decide), ← put_of_nodup hkeys]
      rfl
    have hgap : run (l.next depth) ⟨.key (before ++ [(key, j)]), stack⟩ =
        some ⟨.key (before ++ [(key, j)]), stack⟩ :=
      run_gap (by constructor) (l.blank_next depth)
    have hkeys' : ((before ++ [(key, j)] ++ (nextKey, value) :: fields).map (·.1)).Nodup := by
      simpa using hkeys
    have hquote : step ⟨.key (before ++ [(key, j)]), stack⟩ '"' =
        some ⟨.text (.key (before ++ [(key, j)])) [] .plain, stack⟩ := rfl
    obtain ⟨s', hends, hfield⟩ :=
      run_field nextKey (hfields (nextKey, value) List.mem_cons_self) depth hquote
    have hrest := ih (fun f hf => hfields f (List.mem_cons_of_mem _ hf)) _ hkeys' hends
    rw [Layout.fieldChars]
    simp only [List.cons_append, List.append_assoc, List.nil_append] at hrest ⊢
    rw [run_cons, hcomma, Option.bind_some, run_append, hgap, Option.bind_some, hfield, hrest]

/-- A readable value is read in any layout. -/
theorem reads_of_readable (l : Layout) {j : Json} (h : Readable j) : Reads l j := by
  intro depth s stack hs
  -- the state stays open, as an item may begin behind a bracket or behind a comma
  induction h generalizing depth s stack with
  | null =>
    have hstart : s.step 'n' = some ⟨.word ['u', 'l', 'l'] Json.null, stack⟩ :=
      hs 'n' rfl (by decide)
    refine ⟨_, ?_, .after⟩
    rw [Layout.chars, run_cons, hstart]
    rfl
  | bool b =>
    cases b with
    | true =>
      have hstart : s.step 't' = some ⟨.word ['r', 'u', 'e'] (Json.bool true), stack⟩ :=
        hs 't' rfl (by decide)
      refine ⟨_, ?_, .after⟩
      rw [Layout.chars, run_cons, hstart]
      rfl
    | false =>
      have hstart : s.step 'f' = some ⟨.word ['a', 'l', 's', 'e'] (Json.bool false), stack⟩ :=
        hs 'f' rfl (by decide)
      refine ⟨_, ?_, .after⟩
      rw [Layout.chars, run_cons, hstart]
      rfl
  | number h =>
    rw [Layout.chars]
    exact run_number hs h
  | text t =>
    refine ⟨_, ?_, .after⟩
    rw [Layout.chars]
    exact run_textChars hs t
  | @array items h ih =>
    have hstart : s.step '[' = some ⟨.firstItem, stack⟩ := hs '[' rfl (by decide)
    refine ⟨_, ?_, .after⟩
    cases items with
    | nil =>
      rw [Layout.chars, run_cons, hstart]
      rfl
    | cons item items =>
      have hgap : run (l.start (depth + 1)) ⟨.firstItem, stack⟩ = some ⟨.firstItem, stack⟩ :=
        run_gap (by constructor) (l.blank_start (depth + 1))
      obtain ⟨s', hrun, hends⟩ :=
        ih item List.mem_cons_self (depth + 1) _ _ (opens_firstItem stack)
      have hrest := run_items (fun i hi => ih i (List.mem_cons_of_mem item hi)) (depth + 1) depth
        hends
      rw [Layout.chars]
      simp only [List.cons_append, List.append_assoc, run_cons, hstart, Option.bind_some]
      rw [run_append, hgap, Option.bind_some, run_append, hrun, Option.bind_some]
      simpa using hrest
  | @object fields hkeys h ih =>
    have hstart : s.step '\x7b' = some ⟨.firstKey, stack⟩ := hs '\x7b' rfl (by decide)
    refine ⟨_, ?_, .after⟩
    cases fields with
    | nil =>
      rw [Layout.chars, run_cons, hstart]
      rfl
    | cons field fields =>
      obtain ⟨key, value⟩ := field
      have hgap : run (l.start (depth + 1)) ⟨.firstKey, stack⟩ = some ⟨.firstKey, stack⟩ :=
        run_gap (by constructor) (l.blank_start (depth + 1))
      have hquote : step ⟨.firstKey, stack⟩ '"' = some ⟨.text (.key []) [] .plain, stack⟩ := rfl
      obtain ⟨s', hends, hfield⟩ :=
        run_field key (ih (key, value) List.mem_cons_self) (depth + 1) hquote
      have hrest :=
        run_fields (fun f hf => ih f (List.mem_cons_of_mem _ hf)) (depth + 1) depth [] hkeys hends
      rw [Layout.chars]
      simp only [List.cons_append, List.append_assoc, List.nil_append] at hrest ⊢
      rw [run_cons, hstart, Option.bind_some, run_append, hgap, Option.bind_some, hfield, hrest]

end Values

end State

/-- Whatever the layout, a readable value is read back from its text. -/
theorem parse?_layout (l : Layout) {j : Json} (h : Readable j) : parse? (l.render j) = some j := by
  obtain ⟨s, hrun, hends⟩ := State.reads_of_readable l h 0 _ [] (State.opens_value [])
  have hchars : (l.render j).toList = l.chars 0 j := String.toList_ofList
  unfold parse?
  rw [hchars, show List.foldlM State.step ⟨.value, []⟩ (l.chars 0 j) = some s from hrun]
  exact hends.finish?

/-- What is written is read back. -/
theorem parse?_render {j : Json} (h : Readable j) : parse? j.render = some j :=
  parse?_layout Layout.indented h

example : parse? "\x7b\"a\": [1, -20], \"\\ud834\\udd1e\": \"\\u00e9\", \"a\": null\x7d" =
    some (object [("a", null), ("𝄞", text "é")]) := by
  rfl

end Json
end ServiceDescription
