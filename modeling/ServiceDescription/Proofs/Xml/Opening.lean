import Mathlib.Data.List.DropRight
import ServiceDescription.Xml.Document

/-! How the text of a document begins: with markup, or with space and then markup. A text that begins
otherwise has no root element, because nothing but character data is read from it. -/
namespace ServiceDescription.Xml
open Markup

/-- The text begins with space, or with a less-than sign that is not followed by a null. -/
def opens (s : List Char) : Bool :=
  s.head?.any (fun c => c = '<' || isSpace c) && (after? ['<', '\x00'] s).isNone

lemma cases_of_not_opens {s : List Char} (h : opens s = false) :
    s = [] ∨ (∃ rest, s = '<' :: '\x00' :: rest) ∨
      ∃ c rest, s = c :: rest ∧ c ≠ '<' ∧ isSpace c = false := by
  cases s with
  | nil => exact .inl rfl
  | cons c rest =>
    by_cases hc : c = '<'
    · subst hc
      cases rest with
      | nil => cases h
      | cons d rest =>
        have hd : '\x00' = d := by simpa [opens, after?] using h
        exact .inr (.inl ⟨rest, by rw [hd]⟩)
    · have hspace : isSpace c = false := by
        simpa [opens, after?, hc, Ne.symm hc] using h
      exact .inr (.inr ⟨c, rest, rfl, hc, hspace⟩)

namespace Document

lemma opens_lineFeeds {t : List Char} (h : opens t = false) : opens (lineFeeds t) = false := by
  obtain rfl | ⟨rest, rfl⟩ | ⟨c, rest, rfl, hc, hspace⟩ := cases_of_not_opens h
  · rfl
  · simp [lineFeeds, opens, after?]
  · have hr : c ≠ '\r' := by
      rintro rfl
      cases hspace
    have hfeed : lineFeeds (c :: rest) = c :: lineFeeds rest := by simp [lineFeeds, hr]
    rw [hfeed]
    simp [opens, hc, hspace]

variable {s : List Char} (h : opens s = false)
include h

lemma headingOf?_of_not_opens : headingOf? s = some (none, s) := by
  obtain rfl | ⟨rest, rfl⟩ | ⟨c, rest, rfl, hc, -⟩ := cases_of_not_opens h
  · rfl
  · rfl
  · simp [headingOf?, Heading.keyword?, after?, Ne.symm hc]

lemma misc?_of_not_opens (fuel : ℕ) : misc? (fuel + 1) s = some ([], s) := by
  obtain rfl | ⟨rest, rfl⟩ | ⟨c, rest, rfl, hc, hspace⟩ := cases_of_not_opens h
  · rw [misc?]
    rfl
  · rw [misc?]
    rfl
  · have hskip : skipSpace (c :: rest) = c :: rest := by
      rw [skipSpace, List.dropWhile_cons_of_neg (by simp [hspace])]
    simp [misc?, hskip, hc]

lemma documentTypeOf?_of_not_opens (standalone : Bool) :
    documentTypeOf? standalone s = some ({ standalone := standalone }, s) := by
  obtain rfl | ⟨rest, rfl⟩ | ⟨c, rest, rfl, hc, -⟩ := cases_of_not_opens h
  · rfl
  · rfl
  · simp [documentTypeOf?, after?, Ne.symm hc]

end Document

namespace Assembly
variable {d : DocumentType} {p : Place} {entity? : EntityReader}

/-- No element has been opened, and none is finished. -/
structure IsBare (a : Assembly) : Prop where
  opened : a.opened = []
  finished : ∀ n ∈ a.finished, n.isElement = false

lemma forall_mem_push {n : Node} {content : List Node} (hn : n.isElement = false)
    (hcontent : ∀ m ∈ content, m.isElement = false) :
    ∀ m ∈ push n content, m.isElement = false := by
  unfold push
  split
  · exact List.forall_mem_cons.mpr ⟨rfl, (List.forall_mem_cons.mp hcontent).2⟩
  · exact List.forall_mem_cons.mpr ⟨hn, hcontent⟩

lemma IsBare.add {a : Assembly} (h : a.IsBare) {n : Node} (hn : n.isElement = false) :
    (a.add n).IsBare := by
  have hadd : a.add n = { a with finished := push n a.finished } := by
    rw [Assembly.add, h.opened]
  rw [hadd]
  exact ⟨h.opened, forall_mem_push hn h.finished⟩

lemma IsBare.addText {a : Assembly} (h : a.IsBare) (s : List Char) : (a.addText s).IsBare := by
  rw [Assembly.addText]
  split
  · exact h
  · exact h.add rfl

/-- Character data makes no element. -/
lemma IsBare.step? {a a' : Assembly} (h : a.IsBare) {r : Run}
    (hstep : Assembly.step? d p entity? a (.run r) = some a') : a'.IsBare := by
  cases r with
  | literal s => exact Option.some.inj hstep ▸ h.addText s
  | character c => exact Option.some.inj hstep ▸ h.addText [c]
  | entity name =>
    obtain ⟨f, -, hadd⟩ := Option.bind_eq_some_iff.mp hstep
    have hbare : ({ a with findings := f } : Assembly).IsBare := ⟨h.opened, h.finished⟩
    exact Option.some.inj hadd ▸ hbare.add rfl

lemma IsBare.foldlM {rs : List Run} {a a' : Assembly} (h : a.IsBare)
    (hfold : (rs.map Piece.run).foldlM (Assembly.step? d p entity?) a = some a') : a'.IsBare := by
  induction rs generalizing a with
  | nil => exact Option.some.inj hfold ▸ h
  | cons r rs ih =>
    obtain ⟨b, hstep, hrest⟩ := Option.bind_eq_some_iff.mp hfold
    exact ih (h.step? hstep) hrest

lemma next?_of_not_opens {s : List Char} (h : opens s = false) {pieces : List Piece}
    {rest : List Char} (hnext : next? s = some (pieces, rest)) :
    ∃ rs : List Run, pieces = rs.map .run := by
  have hdata : next? s = characterData? s := by
    obtain rfl | ⟨rest, rfl⟩ | ⟨c, rest, rfl, hc, -⟩ := cases_of_not_opens h
    · rfl
    · cases hnext
    · simp [next?, hc]
  rw [hdata, characterData?] at hnext
  split at hnext
  · cases hnext
  · obtain ⟨rs, -, hpieces⟩ := Option.map_eq_some_iff.mp hnext
    exact ⟨rs, (Prod.mk.inj hpieces).1.symm⟩

lemma not_isEndTag_of_not_opens {s : List Char} (h : opens s = false) : isEndTag s = false := by
  obtain rfl | ⟨rest, rfl⟩ | ⟨c, rest, rfl, hc, -⟩ := cases_of_not_opens h
  · rfl
  · rfl
  · simp [isEndTag, List.isPrefixOf, Ne.symm hc]

/-- One piece after the other is character data, and then reading stops. -/
lemma IsBare.content? {a a' : Assembly} (ha : a.IsBare) {s rest : List Char}
    (h : opens s = false) {fuel : ℕ}
    (hcontent : Assembly.content? d p entity? true (fuel + 1) a s = some (a', rest)) :
    a'.IsBare := by
  cases s with
  | nil =>
    rw [Assembly.content?] at hcontent
    exact (Prod.mk.inj (Option.some.inj hcontent)).1 ▸ ha
  | cons c s =>
    rw [Assembly.content?, not_isEndTag_of_not_opens h, Bool.and_false,
      if_neg Bool.false_ne_true] at hcontent
    · obtain ⟨⟨pieces, more⟩, hnext, hread⟩ := Option.bind_eq_some_iff.mp hcontent
      obtain ⟨b, hfold, hstop⟩ := Option.bind_eq_some_iff.mp hread
      obtain ⟨rs, rfl⟩ := next?_of_not_opens h hnext
      have hb : b.IsBare := ha.foldlM hfold
      rw [hb.opened, List.isEmpty_nil, Bool.and_self, if_pos rfl] at hstop
      exact (Prod.mk.inj (Option.some.inj hstop)).1 ▸ hb
    · exact List.cons_ne_nil c s

/-- There is no root element in a text that begins neither with markup nor with space. -/
lemma root?_of_not_opens (d : DocumentType) (f : Findings) {s : List Char} (h : opens s = false) :
    root? d f s = none := by
  rw [root?]
  cases hcontent : content? d ⟨0, DocumentType.maxNesting⟩
      (entity? d (text? d DocumentType.maxNesting)) true (s.length + 1) { findings := f } s with
  | none => rfl
  | some found =>
    obtain ⟨a, rest⟩ := found
    have hbare : a.IsBare :=
      IsBare.content? ⟨rfl, List.forall_mem_nil _⟩ h hcontent
    refine if_neg ?_
    cases hfinished : a.finished with
    | nil => simp
    | cons n ns =>
      have hn := hbare.finished n (hfinished ▸ List.mem_cons_self)
      simp [hn]

end Assembly

namespace Document

theorem opens_of_ofText? {t : List Char} {n : Node} (h : ofText? t = some n) : opens t = true := by
  by_contra hopens
  have hfeeds := opens_lineFeeds (Bool.eq_false_iff.mpr hopens)
  simp [ofText?, headingOf?_of_not_opens hfeeds, misc?_of_not_opens hfeeds,
    documentTypeOf?_of_not_opens hfeeds, Assembly.root?_of_not_opens _ _ hfeeds] at h

/-- Line ends are space both before and after they become line feeds. -/
lemma skipSpace_lineFeeds (t : List Char) : skipSpace (lineFeeds t) = lineFeeds (skipSpace t) := by
  have hfeed : ∀ s, skipSpace ('\n' :: s) = skipSpace s := fun _ => rfl
  have hreturn : ∀ s, skipSpace ('\r' :: s) = skipSpace s := fun _ => rfl
  fun_induction lineFeeds t with
  | case1 rest ih => rw [hfeed, hreturn, hfeed, ih]
  | case2 rest _ ih => rw [hfeed, hreturn, ih]
  | case3 c rest hpair hc ih =>
    have hcons : lineFeeds (c :: rest) = c :: lineFeeds rest := lineFeeds.eq_3 c rest hpair hc
    rw [skipSpace, skipSpace, List.dropWhile_cons, List.dropWhile_cons]
    split
    · exact ih
    · exact hcons.symm
  | case4 => rfl

lemma head?_lineFeeds_ne {t : List Char} (h : t.head? ≠ some '<') :
    (lineFeeds t).head? ≠ some '<' := by
  fun_cases lineFeeds t with
  | case3 c rest => exact h
  | _ => simp

section Head
variable {s : List Char} (h : (skipSpace s).head? ≠ some '<')
include h

lemma opens_skipSpace : opens (skipSpace s) = false := by
  have hspace := List.head?_dropWhile_not isSpace s
  rw [← skipSpace] at hspace
  cases hs : skipSpace s with
  | nil => rfl
  | cons c rest =>
    rw [hs] at h hspace
    have hc : c ≠ '<' := fun he => h (congrArg some he)
    have hspace : isSpace c = false := by simpa using hspace
    simp [opens, hc, hspace]

lemma headingOf?_of_head? : headingOf? s = some (none, s) := by
  have hs : s.head? ≠ some '<' := by
    intro hs
    obtain ⟨rest, rfl⟩ := List.head?_eq_some_iff.mp hs
    exact h rfl
  cases s with
  | nil => rfl
  | cons c rest =>
    have hc : '<' ≠ c := fun he => hs (he ▸ rfl)
    simp [headingOf?, Heading.keyword?, after?, hc]

lemma misc?_of_head? (fuel : ℕ) : misc? (fuel + 1) s = some ([], skipSpace s) := by
  rw [misc?]
  split
  · next hs => exact absurd (congrArg List.head? hs) h
  · next hs => exact absurd (congrArg List.head? hs) h
  · rfl

end Head

/-- Whatever space a document begins with, markup follows it. -/
theorem head?_of_ofText? {t : List Char} {n : Node} (h : ofText? t = some n) :
    (skipSpace t).head? = some '<' := by
  by_contra hhead
  have hfeeds : (skipSpace (lineFeeds t)).head? ≠ some '<' := by
    rw [skipSpace_lineFeeds]
    exact head?_lineFeeds_ne hhead
  have hopens := opens_skipSpace hfeeds
  -- the space is skipped once, and then there is nothing but character data
  simp [ofText?, headingOf?_of_head? hfeeds, misc?_of_head? hfeeds, misc?_of_not_opens hopens,
    documentTypeOf?_of_not_opens hopens, Assembly.root?_of_not_opens _ _ hopens] at h

end Document

end ServiceDescription.Xml
