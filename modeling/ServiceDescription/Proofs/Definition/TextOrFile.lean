import ServiceDescription.Proofs.Definition.TextAndOctets

/-! A text that may be a document or the name of a file. Whatever blanks and line ends a document
begins with, it is taken for a document, because markup comes next; but there are two ways to begin
that are no blanks and are still read over when the text is decoded. -/
namespace ServiceDescription.Definition
open Xml Markup Schema.Catalog

lemma isBlank_of_isSpace {c : Char} (h : isSpace c = true) : Text.isBlank c = true := by
  simp only [isSpace, Bool.or_eq_true, decide_eq_true_eq] at h
  rcases h with ((rfl | rfl) | rfl) | rfl <;> rfl

/-- Trimming takes away all space, and markup is not blank. -/
lemma isDocument_of_head? {t : String} (h : (skipSpace t.toList).head? = some '<') :
    isDocument t = true := by
  have htrim : ∀ s : List Char, (skipSpace s).head? = some '<' →
      (Text.trimStartChars s).head? = some '<' := by
    intro s hs
    induction s with
    | nil => cases hs
    | cons c s ih =>
      rw [skipSpace, List.dropWhile_cons] at hs
      split at hs
      · next hc =>
        rw [Text.trimStartChars, List.dropWhile_cons_of_pos (isBlank_of_isSpace hc)]
        exact ih hs
      · obtain rfl := Option.some.inj hs
        rfl
  rw [isDocument, htrim _ h]
  rfl

/-- The text begins with a byte order mark, or with a null as the most significant octet of a
less-than sign in UTF-16. -/
def BeginsOctets (t : String) : Prop :=
  t.toList.head? = some '\uFEFF' ∨ t.toList.head? = some '\x00'

instance (t : String) : Decidable (BeginsOctets t) :=
  inferInstanceAs (Decidable (t.toList.head? = some '\uFEFF' ∨ t.toList.head? = some '\x00'))

lemma isDocument_of_beginsOctets {t : String} (h : BeginsOctets t) : isDocument t = false := by
  have hhead : ∀ c : Char, Text.isBlank c = false → c ≠ '<' → t.toList.head? = some c →
      isDocument t = false := by
    intro c hblank hc hhead
    obtain ⟨rest, ht⟩ := List.head?_eq_some_iff.mp hhead
    rw [isDocument, ht, Text.trimStartChars, List.dropWhile_cons_of_neg (by simp [hblank])]
    simp [hc]
  rcases h with hmark | hnull
  · exact hhead _ rfl (by decide) hmark
  · exact hhead _ rfl (by decide) hnull

variable {strict : Bool}

/-- A text from which a description is read is taken for a document, or else it begins with what only
octets begin with. -/
lemma isDocument_of_outcome {t : String} {d : Definition} (h : (ofText strict t).outcome = .ok d) :
    isDocument t = true ∨ BeginsOctets t := by
  rw [ofText_eq] at h
  obtain ⟨n, hn⟩ := exists_root_of_outcome h
  obtain ⟨u, hu, hroot⟩ := Option.bind_eq_some_iff.mp hn
  have hopens := Document.head?_of_ofText? hroot
  obtain rfl | hmarkup | hoctets := Octets.decode?_utf8_cases hu
  · exact .inl (isDocument_of_head? hopens)
  · obtain ⟨rest, ht⟩ := List.head?_eq_some_iff.mp hmarkup
    exact .inl (isDocument_of_head? (by rw [ht]; rfl))
  · exact .inr hoctets

/-- A text from which a description is read gives the same one, with the same events, when it may be
the name of a file just as well; unless it begins with a byte order mark or with a null, for then it
is always taken for the name of a file. -/
theorem ofTextOrFile_agrees (strict : Bool) (t : String) {d : Definition}
    (hread : (ofText strict t).outcome = .ok d) :
    ((∀ files, (ofTextOrFile strict files t).outcome = .ok d) ↔ ¬BeginsOctets t) ∧
      (¬BeginsOctets t → ∀ files, ofTextOrFile strict files t = ofText strict t) ∧
      (BeginsOctets t → ∀ files, ofTextOrFile strict files t = ofFile strict files t) := by
  have hdocument : ¬BeginsOctets t → ∀ files, ofTextOrFile strict files t = ofText strict t := by
    intro hbegins files
    rw [ofTextOrFile, if_pos ((isDocument_of_outcome hread).resolve_right hbegins)]
  have hfile : BeginsOctets t → ∀ files, ofTextOrFile strict files t = ofFile strict files t := by
    intro hbegins files
    rw [ofTextOrFile, isDocument_of_beginsOctets hbegins, if_neg Bool.false_ne_true]
  refine ⟨⟨fun hall hbegins => ?_, fun hbegins files => ?_⟩, hdocument, hfile⟩
  · -- where there are no files at all, the text is not read
    have hmissing := hall fun _ => none
    rw [hfile hbegins] at hmissing
    cases hmissing
  · rw [hdocument hbegins, hread]

/-- A line end, a tab and then the document. -/
theorem ofTextOrFile_agrees_indented :
    ∃ d, (ofText false ("\r\n\t" ++ opened "" "urn:a")).outcome = .ok d ∧
      d.targetNamespace = "urn:a" ∧
      ∀ files, (ofTextOrFile false files ("\r\n\t" ++ opened "" "urn:a")).outcome = .ok d := by
  have hdecode : Octets.decode? (Octets.utf8 ("\r\n\t" ++ opened "" "urn:a").toList) =
      some ("\r\n\t" ++ opened "" "urn:a").toList := by decide +kernel
  obtain ⟨d, hread, huri⟩ : ∃ d, (ofDocument false
      (Document.ofText? ("\r\n\t" ++ opened "" "urn:a").toList)).outcome = .ok d ∧
        d.targetNamespace = "urn:a" := exists_outcome (by cbv)
  have htext : (ofText false ("\r\n\t" ++ opened "" "urn:a")).outcome = .ok d := by
    rw [ofText_eq, Document.ofOctets?, hdecode, Option.bind_some, hread]
  exact ⟨d, htext, huri, (ofTextOrFile_agrees false _ htext).1.mpr (by decide)⟩

/-- A description is read from a text that begins with a byte order mark; but handed over as a text
or a file it is looked for as a file. -/
theorem markedText_takenForFile :
    ∃ d, (ofText false ("\uFEFF" ++ opened "" "urn:a")).outcome = .ok d ∧
      d.targetNamespace = "urn:a" ∧
      (ofTextOrFile false (fun _ => none) ("\uFEFF" ++ opened "" "urn:a")).outcome =
        .error .fileMissing := by
  have hdecode : Octets.decode? (Octets.utf8 ("\uFEFF" ++ opened "" "urn:a").toList) =
      some (opened "" "urn:a").toList := by decide +kernel
  obtain ⟨d, hread, huri⟩ : ∃ d, (ofDocument false
      (Document.ofText? (opened "" "urn:a").toList)).outcome = .ok d ∧
        d.targetNamespace = "urn:a" := exists_outcome (by cbv)
  refine ⟨d, ?_, huri, by decide +kernel⟩
  rw [ofText_eq, Document.ofOctets?, hdecode, Option.bind_some, hread]

end ServiceDescription.Definition
