import ServiceDescription.Proofs.Xml.Encoding
import ServiceDescription.Proofs.Xml.Opening

/-! Documents as octets. The octets of a text in an encoding that they tell themselves are decoded
to the text. Its octets in UTF-8 are so too only if the declaration in the text, which still stands,
agrees with them. -/
namespace ServiceDescription.Xml
open Markup

/-- What a text begins with is seen before it is decoded. -/
lemma Spread.opens_flatMap {w : Char → List Char} (h : Spread w) (s : List Char) :
    opens (s.flatMap w) = opens s := by
  have hhead : (s.flatMap w).head?.any (fun c => c = '<' || isSpace c) =
      s.head?.any fun c => c = '<' || isSpace c := by
    rcases h.cases_head s with rfl | ⟨c, rest, rfl, -, hw⟩ | ⟨c, rest, d, more, rfl, hc, hd, hw, -⟩
    · rfl
    · rw [hw]
      rfl
    · have hne : ∀ e : Char, 128 ≤ e.toNat → e ≠ '<' := by
        rintro e he rfl
        exact absurd he (by decide)
      simp [hw, hne c hc, hne d hd, Spread.isSpace_eq_false hc, Spread.isSpace_eq_false hd]
  rw [opens, opens, hhead, h.after?_flatMap (by decide), Option.isNone_map]

namespace Octets

/-- The encoding that a text declares; one that declares none is in UTF-8. -/
def ofDeclaration? (t : List Char) : Option Encoding :=
  match Heading.declaredName? t with
  | some name => named? name
  | none => some .utf8

/-- Octets that do not begin as a declaration in UTF-16 does are seen as ASCII. -/
lemma declared?_cases (b : List UInt8) :
    (∃ rest, b = 0x3C :: 0x00 :: 0x3F :: 0x00 :: rest) ∨
      (∃ rest, b = 0x00 :: 0x3C :: 0x00 :: 0x3F :: rest) ∨
        declared? b = ofDeclaration? (latin1 b) := by
  unfold declared?
  split
  · exact .inl ⟨_, rfl⟩
  · exact .inr (.inl ⟨_, rfl⟩)
  · refine .inr (.inr ?_)
    rw [ofDeclaration?, Heading.declaredName?]
    cases (Heading.keyword? (latin1 b)).bind Heading.body? with
    | none => rfl
    | some found =>
      obtain ⟨⟨version, encoding, standalone⟩, rest⟩ := found
      cases encoding <;> rfl

lemma declared?_of_opens {b : List UInt8} (h : opens (latin1 b) = true) :
    declared? b = ofDeclaration? (latin1 b) := by
  obtain ⟨rest, rfl⟩ | ⟨rest, rfl⟩ | hb := declared?_cases b
  · cases h
  · cases h
  · exact hb

lemma decode?_of_opens {b : List UInt8} (h : opens (latin1 b) = true) :
    decode? b = (ofDeclaration? (latin1 b)).bind fun e => decodeAs? e b := by
  unfold decode?
  split
  · cases h
  · cases h
  · cases h
  · rw [declared?_of_opens h]

/-- The octets of a text as a document: in an encoding that a byte order mark tells, or else in the
one that the text declares. -/
inductive Written (t : List Char) : List UInt8 → Prop
  | marked {b : List UInt8} (hb : encodeAs? .utf8 t = some b) :
      Written t (0xEF :: 0xBB :: 0xBF :: b)
  | bigEndian {b : List UInt8} (hb : encodeAs? (.utf16 true) t = some b) :
      Written t (0xFE :: 0xFF :: b)
  | littleEndian {b : List UInt8} (hb : encodeAs? (.utf16 false) t = some b) :
      Written t (0xFF :: 0xFE :: b)
  | declared {e : Encoding} {b : List UInt8} (he : ofDeclaration? t = some e)
      (hb : encodeAs? e t = some b) : Written t b

/-- A text that can be handed on in UTF-8 with its declaration: it declares this encoding or none,
or it is in ASCII and declares an encoding that has ASCII. -/
def Portable (t : List Char) : Prop :=
  ∃ e, ofDeclaration? t = some e ∧ (e = .utf8 ∨ IsAscii t)

variable {t : List Char} {e : Encoding} {b : List UInt8}

lemma exists_named?_of_declaration (h : ofDeclaration? t = some e) :
    ∃ name, named? name = some e := by
  rw [ofDeclaration?] at h
  split at h
  · exact ⟨_, h⟩
  · obtain rfl := Option.some.inj h
    exact ⟨"utf-8", by decide⟩

lemma Portable.of_declaredName?_eq_none (h : Heading.declaredName? t = none) : Portable t :=
  ⟨.utf8, by rw [ofDeclaration?, h], .inl rfl⟩

/-- A text that declares something for itself begins with its declaration. -/
lemma exists_of_declaredName? {name : String} (h : Heading.declaredName? t = some name) :
    ∃ rest, t = '<' :: '?' :: rest := by
  rw [Heading.declaredName?, Heading.keyword?] at h
  rcases t with _ | ⟨c, _ | ⟨d, rest⟩⟩
  · cases h
  · by_cases hc : '<' = c
    · simp [after?] at h
    · simp [after?, hc] at h
  · by_cases hc : '<' = c
    · by_cases hd : '?' = d
      · exact ⟨rest, by rw [hc, hd]⟩
      · simp [after?, hd] at h
    · simp [after?, hc] at h

lemma opens_of_declaredName? {name : String} (h : Heading.declaredName? t = some name) :
    opens t = true := by
  obtain ⟨rest, rfl⟩ := exists_of_declaredName? h
  rfl

/-- Octets in the declared encoding tell this encoding. -/
lemma ofDeclaration?_latin1 (he : ofDeclaration? t = some e) (hb : encodeAs? e t = some b) :
    ofDeclaration? (latin1 b) = some e ∧ opens (latin1 b) = opens t := by
  obtain ⟨name, hname⟩ := exists_named?_of_declaration he
  obtain ⟨w, hw, hlatin1⟩ := exists_spread_of_named? hname hb
  rw [hlatin1, hw.opens_flatMap, ofDeclaration?, hw.declaredName?_flatMap]
  exact ⟨he, rfl⟩

/-- After a byte order mark, whatever the text begins with, the octets are decoded to it; without one
this takes a text that begins as documents do, and a text that does not declares nothing. -/
lemma Written.decode?_cases (h : Written t b) :
    decode? b = some t ∨ b = utf8 t ∧ opens t = false := by
  cases h with
  | marked hb =>
    obtain rfl := Option.some.inj ((encodeAs?_utf8 t).symm.trans hb)
    exact .inl (decodeAs?_utf8 t)
  | bigEndian hb => exact .inl (decodeAs?_utf16 true hb)
  | littleEndian hb => exact .inl (decodeAs?_utf16 false hb)
  | declared he hb =>
    cases ht : opens t with
    | true =>
      obtain ⟨name, hname⟩ := exists_named?_of_declaration he
      obtain ⟨hdeclaration, hopens⟩ := ofDeclaration?_latin1 he hb
      left
      rw [decode?_of_opens (hopens.trans ht), hdeclaration, Option.bind_some]
      exact decodeAs?_encodeAs?_of_named? hname hb
    | false =>
      -- a text that does not open declares nothing, and so it is in UTF-8
      refine .inr ⟨?_, rfl⟩
      rw [ofDeclaration?] at he
      split at he
      · next name hname => exact absurd (opens_of_declaredName? hname) (by simp [ht])
      · obtain rfl := Option.some.inj he
        exact Option.some.inj (hb.symm.trans (encodeAs?_utf8 t))

/-- The octets of a document are decoded to its text. -/
theorem Written.decode?_eq (h : Written t b) (ht : opens t = true) : decode? b = some t := by
  rcases h.decode?_cases with hdecode | ⟨-, hopens⟩
  · exact hdecode
  · rw [ht] at hopens
    cases hopens

lemma ofDeclaration?_utf8 (t : List Char) : ofDeclaration? (latin1 (utf8 t)) = ofDeclaration? t := by
  rw [latin1_utf8, ofDeclaration?, spread_utf8.declaredName?_flatMap, ofDeclaration?]

/-- The octets of a text in UTF-8 are decoded to it just when its declaration agrees with them. -/
theorem decode?_utf8_iff (ht : opens t = true) : decode? (utf8 t) = some t ↔ Portable t := by
  have hopens : opens (latin1 (utf8 t)) = true := by
    rw [latin1_utf8, spread_utf8.opens_flatMap, ht]
  rw [decode?_of_opens hopens, ofDeclaration?_utf8, Portable]
  constructor
  · intro hread
    obtain ⟨e, he, hdecode⟩ := Option.bind_eq_some_iff.mp hread
    obtain ⟨name, hname⟩ := exists_named?_of_declaration he
    exact ⟨e, he, (decodeAs?_utf8_iff_of_named? hname).mp hdecode⟩
  · rintro ⟨e, he, hsame⟩
    obtain ⟨name, hname⟩ := exists_named?_of_declaration he
    rw [he, Option.bind_some]
    exact (decodeAs?_utf8_iff_of_named? hname).mpr hsame

/-- A text whose octets in UTF-8 are decoded to another one begins with a less-than sign, so that it
may declare an encoding, with a byte order mark or with a null. -/
theorem decode?_utf8_cases {u : List Char} (h : decode? (utf8 t) = some u) :
    u = t ∨ t.head? = some '<' ∨ t.head? = some '\uFEFF' ∨ t.head? = some '\x00' := by
  have hmark : ∀ o ∈ utf8 t, o.toNat < 0xF8 := fun o ho =>
    (List.mem_flatMap.mp ho).elim fun c hc => utf8EncodeChar_lt c o hc.2
  unfold decode? at h
  split at h
  · next hb => exact .inr (.inr (.inl (head?_of_utf8_mark hb)))
  · next hb => exact absurd (hmark 0xFE (hb ▸ List.mem_cons_self)) (by decide)
  · next hb => exact absurd (hmark 0xFF (hb ▸ List.mem_cons_self)) (by decide)
  · obtain ⟨rest, hb⟩ | ⟨rest, hb⟩ | hb := declared?_cases (utf8 t)
    · exact .inr (.inl (head?_of_utf8_ascii hb (by decide)))
    · exact .inr (.inr (.inr (head?_of_utf8_ascii hb (by decide))))
    · rw [hb, ofDeclaration?_utf8, ofDeclaration?] at h
      cases hname : Heading.declaredName? t with
      | none =>
        rw [hname, Option.bind_some, decodeAs?_utf8] at h
        exact .inl (Option.some.inj h).symm
      | some name =>
        obtain ⟨rest, rfl⟩ := exists_of_declaredName? hname
        exact .inr (.inl rfl)

end Octets
end ServiceDescription.Xml
