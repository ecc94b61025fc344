import Mathlib
import ServiceDescription.Proofs.Definition.Refusal
import ServiceDescription.Proofs.Xml.Decoding

/-! One document at hand as a text and as octets. A text is read through its octets in UTF-8, while
its declaration still stands; so the two readings agree where the declaration agrees with UTF-8. -/
namespace ServiceDescription.Definition
open Xml Schema.Catalog

variable {strict : Bool}

/-- A root element of the right name and namespace is read without refusal. -/
lemma outcome_ofDocument {n : Node} (h : rootError? (.root n) = none) {d : Definition}
    (hread : (Definition.read strict (.root n)).outcome = .ok d) :
    (ofDocument strict (some n)).outcome = .ok d := by
  rw [ofDocument, outcome_ofRoot, h, hread]
  rfl

/-- A document whose root element is accepted is read with the target namespace of this element. -/
lemma exists_outcome {t : List Char} {uri : String}
    (h : ((Document.ofText? t).map fun n =>
      (rootError? (.root n), (Located.root n).attr "targetNamespace")) = some (none, uri)) :
    ∃ d, (ofDocument strict (Document.ofText? t)).outcome = .ok d ∧ d.targetNamespace = uri := by
  obtain ⟨n, hn, hroot⟩ := Option.map_eq_some_iff.mp h
  obtain ⟨hnone, huri⟩ := Prod.mk.inj hroot
  rw [hn]
  exact ⟨_, outcome_ofDocument hnone (outcome_read strict (.root n)), huri⟩

lemma exists_root_of_outcome {root : Option Node} {d : Definition}
    (h : (ofDocument strict root).outcome = .ok d) : ∃ n, root = some n := by
  cases root with
  | none => cases h
  | some n => exact ⟨n, rfl⟩

lemma ofText_eq (strict : Bool) (t : String) :
    ofText strict t = ofDocument strict (Document.ofOctets? (Octets.utf8 t.toList)) := by
  rw [ofText, Document.ofString?, Octets.toList_toUTF8]

lemma ofOctets_of_decode? {b : List UInt8} {t : List Char} (h : Octets.decode? b = some t) :
    ofOctets strict b = ofDocument strict (Document.ofText? t) := by
  rw [ofOctets, Document.ofOctets?, h, Option.bind_some]

section Written
variable {t : String} {b : List UInt8} {d : Definition} (hwritten : Octets.Written t.toList b)
  (hread : (ofOctets strict b).outcome = .ok d)
include hwritten hread

/-- Octets that are read are those of a text that begins as documents do, or else they are its
octets in UTF-8. -/
lemma opens_or_eq_utf8 : opens t.toList = true ∨ b = Octets.utf8 t.toList := by
  rcases hwritten.decode?_cases with hdecode | ⟨hutf8, -⟩
  · rw [ofOctets_of_decode? hdecode] at hread
    obtain ⟨n, hn⟩ := exists_root_of_outcome hread
    exact .inl (Document.opens_of_ofText? hn)
  · exact .inr hutf8

/-- A text whose declaration agrees with UTF-8 is read as its octets are. -/
lemma ofText_eq_of_portable (hportable : Octets.Portable t.toList) :
    ofText strict t = ofOctets strict b := by
  rcases opens_or_eq_utf8 hwritten hread with hopens | rfl
  · rw [ofText_eq, ofOctets_of_decode? (hwritten.decode?_eq hopens), Document.ofOctets?,
      (Octets.decode?_utf8_iff hopens).mpr hportable, Option.bind_some]
  · exact ofText_eq strict t

end Written

/-- A document that is read from its octets, in an encoding that they tell, is read from its text
with the same result and the same events if the declaration in the text agrees with UTF-8. If it
does not, the octets are still read as this text, but the text itself is refused, or another one is
read in its place. A declaration that names an encoding outside the tables agrees with nothing: the
text is refused, also where a conversion library would know the name. -/
theorem ofText_agrees (strict : Bool) (t : String) {b : List UInt8} {d : Definition}
    (hwritten : Octets.Written t.toList b) (hread : (ofOctets strict b).outcome = .ok d) :
    (Octets.Portable t.toList → ofText strict t = ofOctets strict b) ∧
      (¬Octets.Portable t.toList →
        ofOctets strict b = ofDocument strict (Document.ofText? t.toList) ∧
        (ofText strict t = throw .malformed ∨ ∃ other, other ≠ t.toList ∧
          ofText strict t = ofDocument strict (Document.ofText? other))) := by
  refine ⟨ofText_eq_of_portable hwritten hread, fun hportable => ?_⟩
  have hopens : opens t.toList = true := by
    cases hname : Heading.declaredName? t.toList with
    | none => exact absurd (Octets.Portable.of_declaredName?_eq_none hname) hportable
    | some name => exact Octets.opens_of_declaredName? hname
  have hother := fun h => hportable ((Octets.decode?_utf8_iff hopens).mp h)
  refine ⟨ofOctets_of_decode? (hwritten.decode?_eq hopens), ?_⟩
  rw [ofText_eq, Document.ofOctets?]
  cases hdecode : Octets.decode? (Octets.utf8 t.toList) with
  | none => exact .inl rfl
  | some other => exact .inr ⟨other, fun he => hother (he ▸ hdecode), rfl⟩

/-- A document with a target namespace, which opens with the given declaration. -/
def opened (heading space : String) : String :=
  heading ++ "<definitions targetNamespace='" ++ space ++ "'/>"

/-- Without a declaration, in UTF-16 with a byte order mark. -/
theorem ofText_agrees_opened :
    ∃ (b : List UInt8) (d : Definition), Octets.Written (opened "" "é").toList (0xFF :: 0xFE :: b) ∧
      (ofOctets false (0xFF :: 0xFE :: b)).outcome = .ok d ∧ d.targetNamespace = "é" ∧
      (ofText false (opened "" "é")).outcome = .ok d := by
  have hencode : Octets.encodeAs? (.utf16 false) (opened "" "é").toList =
      some (((opened "" "é").toList.flatMap Octets.unitsOf).flatMap (Octets.unitOctets false)) := by
    decide +kernel
  have hwritten := Octets.Written.littleEndian hencode
  have hopens : opens (opened "" "é").toList = true := by decide +kernel
  have hportable : Octets.Portable (opened "" "é").toList :=
    .of_declaredName?_eq_none (by decide +kernel)
  obtain ⟨d, hread, huri⟩ : ∃ d, (ofDocument false
      (Document.ofText? (opened "" "é").toList)).outcome = .ok d ∧ d.targetNamespace = "é" :=
    exists_outcome (by cbv)
  rw [← ofOctets_of_decode? (hwritten.decode?_eq hopens)] at hread
  refine ⟨_, d, hwritten, hread, huri, ?_⟩
  rw [(ofText_agrees false _ hwritten hread).1 hportable]
  exact hread

def latinHeading : String := "<?xml version='1.0' encoding='ISO-8859-1'?>"

/-- In ISO-8859-1, as it declares, the document is read with its own target namespace. As a text it is
read too, but with another one: the octets of the accented letter in UTF-8 are taken for two
characters. -/
theorem latinHeading_misread :
    ∃ (b : List UInt8) (d e : Definition), Octets.Written (opened latinHeading "é").toList b ∧
      (ofOctets false b).outcome = .ok d ∧ d.targetNamespace = "é" ∧
      (ofText false (opened latinHeading "é")).outcome = .ok e ∧ e.targetNamespace = "Ã©" := by
  have hencode : Octets.encodeAs? .latin1 (opened latinHeading "é").toList =
      some ((opened latinHeading "é").toList.map fun c => UInt8.ofNat c.toNat) := by
    decide +kernel
  have hdeclared : Octets.ofDeclaration? (opened latinHeading "é").toList = some .latin1 := by
    decide +kernel
  have hwritten := Octets.Written.declared hdeclared hencode
  have hopens : opens (opened latinHeading "é").toList = true := by decide +kernel
  have hdecode : Octets.decode? (Octets.utf8 (opened latinHeading "é").toList) =
      some (opened latinHeading "Ã©").toList := by decide +kernel
  obtain ⟨d, hread, huri⟩ : ∃ d, (ofDocument false
      (Document.ofText? (opened latinHeading "é").toList)).outcome = .ok d ∧
        d.targetNamespace = "é" := exists_outcome (by cbv)
  obtain ⟨e, hmisread, hother⟩ : ∃ e, (ofDocument false
      (Document.ofText? (opened latinHeading "Ã©").toList)).outcome = .ok e ∧
        e.targetNamespace = "Ã©" := exists_outcome (by cbv)
  refine ⟨_, d, e, hwritten, ?_, huri, ?_, hother⟩
  · rw [ofOctets_of_decode? (hwritten.decode?_eq hopens), hread]
  · rw [ofText_eq, Document.ofOctets?, hdecode, Option.bind_some, hmisread]

end ServiceDescription.Definition
