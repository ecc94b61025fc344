import Mathlib.Data.List.Basic
import ServiceDescription.Proofs.Xml.Heading
import ServiceDescription.Xml.Octets

/-! Texts as octets. A text is written in an encoding character by character, if the encoding has
all of its characters, and decoding gives back what was written. Where a character takes whole
octets of its own, and those below 128 are the ones of ASCII, a declaration can be read before the
text is decoded. -/
namespace ServiceDescription.Xml.Octets

section Octet
variable {c : Char}

lemma toNat_ofNat_octet (hc : c.toNat < 256) : (UInt8.ofNat c.toNat).toNat = c.toNat := by
  rw [UInt8.toNat_ofNat', Nat.mod_eq_of_lt hc]

lemma latin1_singleton (o : UInt8) : latin1 [o] = [Char.ofNat o.toNat] := rfl

lemma latin1_append (a b : List UInt8) : latin1 (a ++ b) = latin1 a ++ latin1 b :=
  List.map_append

lemma latin1_octet (hc : c.toNat < 256) : latin1 [UInt8.ofNat c.toNat] = [c] := by
  rw [latin1_singleton, toNat_ofNat_octet hc, Char.ofNat_toNat]

lemma toNat_ofNat_toNat (o : UInt8) : (Char.ofNat o.toNat).toNat = o.toNat := by
  have hlt : o.toNat < 256 := o.toNat_lt
  rw [Char.ofNat, dif_pos (Or.inl (by omega))]
  rfl

end Octet

/-- The two octets of a number below 65536. -/
def unitOctets (bigEndian : Bool) (n : ℕ) : List UInt8 :=
  if bigEndian then [UInt8.ofNat (n / 256), UInt8.ofNat n]
  else [UInt8.ofNat n, UInt8.ofNat (n / 256)]

/-- A character as one number below 65536, or as two surrogates. -/
def unitsOf (c : Char) : List ℕ :=
  if c.toNat < 0x10000 then [c.toNat]
  else [0xD800 + (c.toNat - 0x10000) / 0x400, 0xDC00 + (c.toNat - 0x10000) % 0x400]

/-- The octet of a character in a code page. -/
def octetIn? (p : CodePage) (c : Char) : Option UInt8 :=
  if c.toNat < p.first then some (UInt8.ofNat c.toNat)
  else if c = '\uFFFD' then none
  else ((p.characters.toList.findIdx? (· = c)).filter (p.first + · < 256)).map fun i =>
    UInt8.ofNat (p.first + i)

/-- The octets of a character, if the encoding has it. -/
def octetsOf? (e : Encoding) (c : Char) : Option (List UInt8) :=
  match e with
  | .utf8 => some (String.utf8EncodeChar c)
  | .utf16 bigEndian => some ((unitsOf c).flatMap (unitOctets bigEndian))
  | .latin1 => if c.toNat < 256 then some [UInt8.ofNat c.toNat] else none
  | .ascii => if c.toNat < 128 then some [UInt8.ofNat c.toNat] else none
  | .page p => (octetIn? p c).map fun o => [o]

/-- The octets of a text, if the encoding has all of its characters. -/
def encodeAs? (e : Encoding) : List Char → Option (List UInt8)
  | [] => some []
  | c :: t => do
    let o ← octetsOf? e c
    let b ← encodeAs? e t
    return o ++ b

/-- The octets of a text in UTF-8. -/
def utf8 (t : List Char) : List UInt8 := t.flatMap String.utf8EncodeChar

lemma encodeAs?_cons_eq_some_iff {e : Encoding} {c : Char} {t : List Char} {b : List UInt8} :
    encodeAs? e (c :: t) = some b ↔
      ∃ o rest, octetsOf? e c = some o ∧ encodeAs? e t = some rest ∧ o ++ rest = b := by
  simp [encodeAs?, Option.bind_eq_some_iff]

lemma encodeAs?_utf8 (t : List Char) : encodeAs? .utf8 t = some (utf8 t) := by
  induction t with
  | nil => rfl
  | cons c t ih => exact encodeAs?_cons_eq_some_iff.mpr ⟨_, _, rfl, ih, rfl⟩

section Utf16

lemma toNat_cases (c : Char) : c.toNat < 0xD800 ∨ 0xDFFF < c.toNat ∧ c.toNat < 0x110000 := c.valid

lemma unitsOf_lt (c : Char) : ∀ n ∈ unitsOf c, n < 0x10000 := by
  have hc := toNat_cases c
  rw [unitsOf]
  split
  · simpa
  · simp only [List.forall_mem_cons, List.not_mem_nil, IsEmpty.forall_iff, implies_true, and_true]
    omega

lemma pair?_surrogates {n : ℕ} (hlow : 0x10000 ≤ n) (hhigh : n < 0x110000) :
    pair? (0xD800 + (n - 0x10000) / 0x400) (0xDC00 + (n - 0x10000) % 0x400) =
      some (Char.ofNat n) := by
  have hn : 0x10000 + (0xD800 + (n - 0x10000) / 0x400 - 0xD800) * 0x400 +
      (0xDC00 + (n - 0x10000) % 0x400 - 0xDC00) = n := by omega
  rw [pair?, if_pos (by omega), hn]

lemma ofUnits?_unitsOf (c : Char) (rest : List ℕ) :
    ofUnits? (unitsOf c ++ rest) = (ofUnits? rest).map (c :: ·) := by
  have hc := toNat_cases c
  by_cases hplane : c.toNat < 0x10000
  · -- one unit, which is no surrogate
    have hunit : ¬(0xD800 ≤ c.toNat ∧ c.toNat < 0xE000) := by omega
    rw [unitsOf, if_pos hplane, List.singleton_append]
    cases rest with
    | nil =>
      show (if 0xD800 ≤ c.toNat ∧ c.toNat < 0xE000 then none else some [Char.ofNat c.toNat]) = _
      rw [if_neg hunit, Char.ofNat_toNat, ofUnits?, Option.map_some]
    | cons low rest => rw [ofUnits?, if_neg hunit, Char.ofNat_toNat]
  · have hsurrogate : 0xD800 ≤ 0xD800 + (c.toNat - 0x10000) / 0x400 ∧
        0xD800 + (c.toNat - 0x10000) / 0x400 < 0xE000 := by omega
    rw [unitsOf, if_neg hplane, List.cons_append, List.singleton_append, ofUnits?,
      if_pos hsurrogate, pair?_surrogates (by omega) (by omega), Char.ofNat_toNat]
    cases ofUnits? rest <;> rfl

variable (bigEndian : Bool)

lemma units?_unitOctets {n : ℕ} (hn : n < 0x10000) (rest : List UInt8) :
    units? bigEndian (unitOctets bigEndian n ++ rest) =
      (units? bigEndian rest).map (n :: ·) := by
  have hvalue : (UInt8.ofNat (n / 256)).toNat * 256 + (UInt8.ofNat n).toNat = n := by
    simp only [UInt8.toNat_ofNat']
    omega
  cases bigEndian with
  | true =>
    show (units? true rest).map _ = _
    rw [if_pos rfl, hvalue]
  | false =>
    show (units? false rest).map _ = _
    rw [if_neg Bool.false_ne_true, hvalue]

lemma units?_flatMap {ns : List ℕ} (hns : ∀ n ∈ ns, n < 0x10000) (rest : List UInt8) :
    units? bigEndian (ns.flatMap (unitOctets bigEndian) ++ rest) =
      (units? bigEndian rest).map (ns ++ ·) := by
  induction ns with
  | nil => simp
  | cons n ns ih =>
    obtain ⟨hn, hns⟩ := List.forall_mem_cons.mp hns
    rw [List.flatMap_cons, List.append_assoc, units?_unitOctets bigEndian hn, ih hns,
      Option.map_map]
    rfl

lemma decodeAs?_utf16 {t : List Char} {b : List UInt8}
    (h : encodeAs? (.utf16 bigEndian) t = some b) :
    decodeAs? (.utf16 bigEndian) b = some t := by
  rw [decodeAs?]
  induction t generalizing b with
  | nil =>
    obtain rfl : [] = b := Option.some.inj h
    rfl
  | cons c t ih =>
    obtain ⟨o, rest, ho, hrest, rfl⟩ := encodeAs?_cons_eq_some_iff.mp h
    obtain rfl := Option.some.inj ho
    obtain ⟨us, hus, ht⟩ := Option.bind_eq_some_iff.mp (ih hrest)
    rw [units?_flatMap bigEndian (unitsOf_lt c), hus, Option.map_some, Option.bind_some,
      ofUnits?_unitsOf, ht, Option.map_some]

example : encodeAs? (.utf16 true) ['é', '😀'] = some [0x00, 0xE9, 0xD8, 0x3D, 0xDE, 0x00] := by
  decide

end Utf16

section Utf8

lemma utf8EncodeChar_of_lt {c : Char} (hc : c.toNat < 128) :
    String.utf8EncodeChar c = [UInt8.ofNat c.toNat] := by
  have hle : c.val.toNat ≤ 127 := Nat.le_of_lt_succ hc
  rw [String.utf8EncodeChar, if_pos hle]
  rfl

/-- Beyond ASCII a character takes at least two octets, which are no octets of ASCII. -/
lemma utf8EncodeChar_of_le {c : Char} (hc : 128 ≤ c.toNat) :
    2 ≤ (String.utf8EncodeChar c).length ∧ ∀ o ∈ String.utf8EncodeChar c, 128 ≤ o.toNat := by
  have hlt : ¬c.val.toNat ≤ 127 := Nat.not_le_of_lt hc
  rw [String.utf8EncodeChar, if_neg hlt]
  split
  · simp only [List.length_cons, List.length_nil, List.forall_mem_cons, UInt8.toNat_ofNat']
    exact ⟨by omega, by omega, by omega, List.forall_mem_nil _⟩
  · split
    · simp only [List.length_cons, List.length_nil, List.forall_mem_cons, UInt8.toNat_ofNat']
      exact ⟨by omega, by omega, by omega, by omega, List.forall_mem_nil _⟩
    · simp only [List.length_cons, List.length_nil, List.forall_mem_cons, UInt8.toNat_ofNat']
      exact ⟨by omega, by omega, by omega, by omega, by omega, List.forall_mem_nil _⟩

/-- No character has an octet that stands in the byte order marks of UTF-16. -/
lemma utf8EncodeChar_lt (c : Char) : ∀ o ∈ String.utf8EncodeChar c, o.toNat < 0xF8 := by
  rw [String.utf8EncodeChar]
  split
  · simp only [List.forall_mem_cons, UInt8.toNat_ofNat']
    exact ⟨by omega, List.forall_mem_nil _⟩
  · split
    · simp only [List.forall_mem_cons, UInt8.toNat_ofNat']
      exact ⟨by omega, by omega, List.forall_mem_nil _⟩
    · split
      · simp only [List.forall_mem_cons, UInt8.toNat_ofNat']
        exact ⟨by omega, by omega, by omega, List.forall_mem_nil _⟩
      · simp only [List.forall_mem_cons, UInt8.toNat_ofNat']
        exact ⟨by omega, by omega, by omega, by omega, List.forall_mem_nil _⟩

/-- The byte order mark of UTF-8 is a character, and no other one is written like it. -/
lemma toNat_of_mark {c : Char} {b d : List UInt8}
    (h : String.utf8EncodeChar c ++ d = 0xEF :: 0xBB :: 0xBF :: b) : c.toNat = 0xFEFF := by
  have hc : c.toNat = c.val.toNat := rfl
  rw [String.utf8EncodeChar] at h
  split at h
  · have hfirst := congrArg UInt8.toNat (List.cons.inj h).1
    simp only [UInt8.toNat_ofNat', UInt8.reduceToNat] at hfirst
    omega
  · split at h
    · have hfirst := congrArg UInt8.toNat (List.cons.inj h).1
      simp only [UInt8.toNat_ofNat', UInt8.reduceToNat] at hfirst
      omega
    · split at h
      · simp only [List.cons_append, List.cons.injEq, ← UInt8.toNat_inj, UInt8.toNat_ofNat',
          UInt8.reduceToNat] at h
        omega
      · have hfirst := congrArg UInt8.toNat (List.cons.inj h).1
        simp only [UInt8.toNat_ofNat', UInt8.reduceToNat] at hfirst
        omega

lemma head?_of_utf8_mark {t : List Char} {b : List UInt8}
    (h : utf8 t = 0xEF :: 0xBB :: 0xBF :: b) : t.head? = some '\uFEFF' := by
  cases t with
  | nil => cases h
  | cons c t =>
    rw [utf8, List.flatMap_cons] at h
    exact congrArg some (Char.toNat_inj.mp (toNat_of_mark h))

/-- An octet of ASCII that comes first is the first character. -/
lemma head?_of_utf8_ascii {t : List Char} {o : UInt8} {b : List UInt8} (h : utf8 t = o :: b)
    (ho : o.toNat < 128) : t.head? = some (Char.ofNat o.toNat) := by
  cases t with
  | nil => cases h
  | cons c t =>
    rw [utf8, List.flatMap_cons] at h
    rcases Nat.lt_or_ge c.toNat 128 with hc | hc
    · rw [utf8EncodeChar_of_lt hc] at h
      obtain ⟨rfl, -⟩ := List.cons.inj h
      rw [toNat_ofNat_octet (by omega), Char.ofNat_toNat]
      rfl
    · obtain ⟨p, ps, hp⟩ := List.exists_cons_of_ne_nil (String.utf8EncodeChar_ne_nil (c := c))
      rw [hp] at h
      obtain ⟨rfl, -⟩ := List.cons.inj h
      have hle := (utf8EncodeChar_of_le hc).2 p (hp ▸ List.mem_cons_self)
      omega

lemma latin1_utf8 (t : List Char) :
    latin1 (utf8 t) = t.flatMap fun c => latin1 (String.utf8EncodeChar c) := by
  rw [latin1, utf8, List.map_flatMap]
  rfl

lemma spread_utf8 : Spread fun c => latin1 (String.utf8EncodeChar c) where
  ascii c hc := by rw [utf8EncodeChar_of_lt hc, latin1_octet (by omega)]
  beyond c hc d hd := by
    obtain ⟨o, ho, rfl⟩ := List.mem_map.mp hd
    rw [toNat_ofNat_toNat]
    exact (utf8EncodeChar_of_le hc).2 o ho
  ne_nil c := by
    rw [latin1, Ne, List.map_eq_nil_iff]
    exact String.utf8EncodeChar_ne_nil

lemma length_le_utf8 (t : List Char) : t.length ≤ (utf8 t).length := by
  induction t with
  | nil => exact Nat.le_refl 0
  | cons c t ih =>
    have hc := List.length_pos_of_ne_nil (String.utf8EncodeChar_ne_nil (c := c))
    rw [utf8, List.flatMap_cons, List.length_append, List.length_cons]
    rw [utf8] at ih
    omega

/-- A text that is not in ASCII takes more octets than it has characters. -/
lemma length_lt_utf8 {t : List Char} (ht : ¬IsAscii t) : t.length < (utf8 t).length := by
  induction t with
  | nil => exact absurd (List.forall_mem_nil _) ht
  | cons c t ih =>
    rw [utf8, List.flatMap_cons, List.length_append, List.length_cons, ← utf8]
    rcases Nat.lt_or_ge c.toNat 128 with hc | hc
    · have hlt := ih fun h => ht (List.forall_mem_cons.mpr ⟨hc, h⟩)
      have hone := List.length_pos_of_ne_nil (String.utf8EncodeChar_ne_nil (c := c))
      omega
    · have htwo := (utf8EncodeChar_of_le hc).1
      have hle := length_le_utf8 t
      omega

lemma toList_loop_eq (bs : ByteArray) (i : ℕ) (acc : List UInt8) :
    ByteArray.toList.loop bs i acc = acc.reverse ++ bs.data.toList.drop i := by
  fun_induction ByteArray.toList.loop bs i acc with
  | case1 i acc hi ih =>
    have hlt : i < bs.data.toList.length := by simpa using hi
    rw [ih, List.drop_eq_getElem_cons hlt]
    simp [ByteArray.get!, hi]
  | case2 i acc hi =>
    rw [List.drop_eq_nil_of_le (by simpa using Nat.le_of_not_lt hi), List.append_nil]

/-- A text is handed on as its octets in UTF-8. -/
lemma toList_toUTF8 (s : String) : s.toUTF8.toList = utf8 s.toList := by
  rw [ByteArray.toList, toList_loop_eq, String.toUTF8_eq_toByteArray, ← String.utf8Encode_toList,
    List.utf8Encode, List.toList_data_toByteArray]
  rfl

lemma decodeAs?_utf8 (t : List Char) : decodeAs? .utf8 (utf8 t) = some t := by
  have hbytes : (⟨(utf8 t).toArray⟩ : ByteArray) = (String.ofList t).toByteArray := by
    rw [String.toByteArray_ofList]
    apply ByteArray.ext
    rw [List.utf8Encode, List.data_toByteArray, utf8]
  rw [decodeAs?, hbytes, String.fromUTF8?, dif_pos (String.ofList t).isValidUTF8]
  exact congrArg some String.toList_ofList

end Utf8

/-- An encoding that has one octet for a character, the one of ASCII for those that ASCII has. -/
structure Octetwise (e : Encoding) (character? : UInt8 → Option Char) : Prop where
  nil : decodeAs? e [] = some []
  cons : ∀ o b, decodeAs? e (o :: b) =
    (character? o).bind fun c => (decodeAs? e b).map (c :: ·)
  encode : ∀ c os, octetsOf? e c = some os → ∃ o, os = [o] ∧ character? o = some c
  ascii : ∀ c, c.toNat < 128 → octetsOf? e c = some [UInt8.ofNat c.toNat]
  lower : ∀ o : UInt8, o.toNat < 128 → ∀ c, character? o = some c → c.toNat = o.toNat

lemma octetwise_latin1 : Octetwise .latin1 fun o => some (Char.ofNat o.toNat) where
  nil := rfl
  cons o b := rfl
  encode c os h := by
    rw [octetsOf?] at h
    split at h
    · next hc =>
      obtain rfl := Option.some.inj h
      exact ⟨_, rfl, by rw [toNat_ofNat_octet hc, Char.ofNat_toNat]⟩
    · cases h
  ascii c hc := by rw [octetsOf?, if_pos (by omega)]
  lower o _ c h := by rw [← Option.some.inj h, toNat_ofNat_toNat]

lemma octetwise_ascii :
    Octetwise .ascii fun o => if o < 128 then some (Char.ofNat o.toNat) else none where
  nil := rfl
  cons o b := by
    rw [decodeAs?, decodeAs?, List.all_cons]
    by_cases ho : o < 128
    · rw [if_pos ho, decide_eq_true ho, Bool.true_and, Option.bind_some]
      split <;> rfl
    · rw [if_neg ho, decide_eq_false ho, Bool.false_and, if_neg Bool.false_ne_true]
      rfl
  encode c os h := by
    rw [octetsOf?] at h
    split at h
    · next hc =>
      obtain rfl := Option.some.inj h
      refine ⟨_, rfl, ?_⟩
      have hlt : UInt8.ofNat c.toNat < 128 := by
        rw [UInt8.lt_iff_toNat_lt, toNat_ofNat_octet (by omega)]
        exact hc
      rw [if_pos hlt, toNat_ofNat_octet (by omega), Char.ofNat_toNat]
    · cases h
  ascii c hc := by rw [octetsOf?, if_pos hc]
  lower o _ c h := by
    split at h
    · rw [← Option.some.inj h, toNat_ofNat_toNat]
    · cases h

/-- A code page has octets for the characters of its table, besides those below the table. -/
lemma octetwise_page {p : CodePage} (hlow : 128 ≤ p.first) (hhigh : p.first ≤ 256) :
    Octetwise (.page p) p.decode? where
  nil := rfl
  cons o b := by
    rw [decodeAs?, List.mapM_cons]
    cases p.decode? o with
    | none => rfl
    | some c =>
      rw [Option.bind_some, decodeAs?]
      cases b.mapM p.decode? <;> rfl
  encode c os h := by
    obtain ⟨o, ho, rfl⟩ := Option.map_eq_some_iff.mp h
    refine ⟨o, rfl, ?_⟩
    rw [octetIn?] at ho
    split at ho
    · next hc =>
      obtain rfl := Option.some.inj ho
      rw [CodePage.decode?, toNat_ofNat_octet (by omega), if_pos hc, Char.ofNat_toNat]
    · split at ho
      · cases ho
      · next hreplacement =>
        obtain ⟨i, hi, rfl⟩ := Option.map_eq_some_iff.mp ho
        obtain ⟨hi, hlt⟩ := Option.filter_eq_some_iff.mp hi
        obtain ⟨hlength, hchar, -⟩ := List.findIdx?_eq_some_iff_getElem.mp hi
        have hlt : p.first + i < 256 := of_decide_eq_true hlt
        have ho : (UInt8.ofNat (p.first + i)).toNat = p.first + i := by
          rw [UInt8.toNat_ofNat', Nat.mod_eq_of_lt hlt]
        rw [CodePage.decode?, ho, if_neg (by omega), Nat.add_sub_cancel_left,
          List.getElem?_eq_getElem hlength, of_decide_eq_true hchar]
        simp [Option.filter, hreplacement]
  ascii c hc := by rw [octetsOf?, octetIn?, if_pos (by omega), Option.map_some]
  lower o ho c h := by
    rw [CodePage.decode?, if_pos (by omega)] at h
    rw [← Option.some.inj h, toNat_ofNat_toNat]

/-- A declaration names UTF-8 or an encoding that has one octet for a character. -/
theorem octetwise_of_named? {name : String} {e : Encoding} (h : named? name = some e) :
    e = .utf8 ∨ ∃ character?, Octetwise e character? := by
  have hall : ∀ q ∈ CodePage.all, 128 ≤ q.first ∧ q.first ≤ 256 := by decide +kernel
  rw [named?] at h
  split at h
  · exact .inl (Option.some.inj h).symm
  · split at h
    · exact .inr ⟨_, Option.some.inj h ▸ octetwise_latin1⟩
    · split at h
      · exact .inr ⟨_, Option.some.inj h ▸ octetwise_ascii⟩
      · obtain ⟨p, hp, rfl⟩ := Option.map_eq_some_iff.mp h
        obtain ⟨hlow, hhigh⟩ := hall p (List.mem_of_find?_eq_some hp)
        exact .inr ⟨_, octetwise_page hlow hhigh⟩

namespace Octetwise
variable {e : Encoding} {character? : UInt8 → Option Char} (h : Octetwise e character?)
include h

lemma decodeAs?_encodeAs? {t : List Char} {b : List UInt8} (hb : encodeAs? e t = some b) :
    decodeAs? e b = some t := by
  induction t generalizing b with
  | nil =>
    obtain rfl : [] = b := Option.some.inj hb
    exact h.nil
  | cons c t ih =>
    obtain ⟨os, rest, hos, hrest, rfl⟩ := encodeAs?_cons_eq_some_iff.mp hb
    obtain ⟨o, rfl, ho⟩ := h.encode c os hos
    rw [List.singleton_append, h.cons, ho, Option.bind_some, ih hrest, Option.map_some]

/-- As many characters are read as there are octets. -/
lemma length_eq {t : List Char} {b : List UInt8} (hb : decodeAs? e b = some t) :
    t.length = b.length := by
  induction b generalizing t with
  | nil =>
    obtain rfl := Option.some.inj (h.nil.symm.trans hb)
    rfl
  | cons o b ih =>
    rw [h.cons] at hb
    obtain ⟨c, -, hc⟩ := Option.bind_eq_some_iff.mp hb
    obtain ⟨cs, hcs, rfl⟩ := Option.map_eq_some_iff.mp hc
    rw [List.length_cons, List.length_cons, ih hcs]

lemma encodeAs?_of_isAscii {t : List Char} (ht : IsAscii t) : encodeAs? e t = some (utf8 t) := by
  induction t with
  | nil => rfl
  | cons c t ih =>
    obtain ⟨hc, ht⟩ := List.forall_mem_cons.mp ht
    refine encodeAs?_cons_eq_some_iff.mpr ⟨_, _, h.ascii c hc, ih ht, ?_⟩
    rw [utf8, utf8, List.flatMap_cons, utf8EncodeChar_of_lt hc]

/-- A character as its octet is read before the text is decoded. -/
def written (e : Encoding) (c : Char) : List Char := ((octetsOf? e c).map latin1).getD [c]

lemma spread_written : Spread (written e) where
  ascii c hc := by rw [written, h.ascii c hc, Option.map_some, latin1_octet (by omega)]; rfl
  beyond c hc d hd := by
    rw [written] at hd
    cases hos : octetsOf? e c with
    | none =>
      rw [hos] at hd
      rwa [List.mem_singleton.mp hd]
    | some os =>
      obtain ⟨o, rfl, ho⟩ := h.encode c os hos
      rw [hos] at hd
      rw [List.mem_singleton.mp hd, toNat_ofNat_toNat]
      by_contra hlt
      have := h.lower o (Nat.lt_of_not_le hlt) c ho
      omega
  ne_nil c := by
    rw [written]
    cases hos : octetsOf? e c with
    | none => exact List.cons_ne_nil c []
    | some os =>
      obtain ⟨o, rfl, -⟩ := h.encode c os hos
      exact List.cons_ne_nil _ _

omit h in
lemma latin1_encodeAs? {t : List Char} {b : List UInt8} (hb : encodeAs? e t = some b) :
    latin1 b = t.flatMap (written e) := by
  induction t generalizing b with
  | nil =>
    obtain rfl : [] = b := Option.some.inj hb
    rfl
  | cons c t ih =>
    obtain ⟨os, rest, hos, hrest, rfl⟩ := encodeAs?_cons_eq_some_iff.mp hb
    rw [latin1_append, ih hrest, List.flatMap_cons, written, hos]
    rfl

end Octetwise

section Named
variable {name : String} {e : Encoding} (h : named? name = some e) {t : List Char} {b : List UInt8}
include h

/-- What is written in an encoding that a declaration names is read as it was. -/
theorem decodeAs?_encodeAs?_of_named? (hb : encodeAs? e t = some b) : decodeAs? e b = some t := by
  rcases octetwise_of_named? h with rfl | ⟨character?, he⟩
  · obtain rfl : utf8 t = b := Option.some.inj ((encodeAs?_utf8 t).symm.trans hb)
    exact decodeAs?_utf8 t
  · exact he.decodeAs?_encodeAs? hb

/-- Octets in such an encoding, read one by one, spread the text. -/
theorem exists_spread_of_named? (hb : encodeAs? e t = some b) :
    ∃ w, Spread w ∧ latin1 b = t.flatMap w := by
  rcases octetwise_of_named? h with rfl | ⟨character?, he⟩
  · obtain rfl : utf8 t = b := Option.some.inj ((encodeAs?_utf8 t).symm.trans hb)
    exact ⟨_, spread_utf8, latin1_utf8 t⟩
  · exact ⟨_, he.spread_written, Octetwise.latin1_encodeAs? hb⟩

/-- The octets of a text in UTF-8 are those of the text in such an encoding only if it is UTF-8, or
if the text is in ASCII. -/
theorem decodeAs?_utf8_iff_of_named? :
    decodeAs? e (utf8 t) = some t ↔ e = .utf8 ∨ IsAscii t := by
  constructor
  · intro hread
    rcases octetwise_of_named? h with he | ⟨character?, he⟩
    · exact .inl he
    · refine .inr ?_
      by_contra ht
      -- one character is read for each octet, but there are more octets than characters
      have hlt := length_lt_utf8 ht
      have hlength := he.length_eq hread
      omega
  · rintro (rfl | ht)
    · exact decodeAs?_utf8 t
    · rcases octetwise_of_named? h with rfl | ⟨character?, he⟩
      · exact decodeAs?_utf8 t
      · exact he.decodeAs?_encodeAs? (he.encodeAs?_of_isAscii ht)

end Named

end ServiceDescription.Xml.Octets
