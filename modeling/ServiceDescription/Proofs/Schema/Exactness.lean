import ServiceDescription.Proofs.Schema.Entries
import ServiceDescription.Proofs.Xml.Plain

/-! Which elements are marked complex. An inline body marks its element when it is read; any other
element is marked last, by looking for its type in the whole catalog. Both together mark an element
exactly when it has an inline body or refers to a type that the catalog has in the namespace of the
reference. -/
namespace ServiceDescription.Schema
open Xml

namespace Catalog

/-- A type of the catalog with this name and in this namespace. -/
def HasType (d : Catalog) (name space : String) : Prop :=
  ∃ t ∈ d.complexTypes, t.name = name ∧ t.space = space

theorem isSome_complexType?_iff {c : Catalog} (h : c.typeNames.Nodup) {name space : String} :
    (c.complexType? name (some space)).isSome = true ↔ c.HasType name space := by
  constructor
  · intro hsome
    obtain ⟨t, ht⟩ := Option.isSome_iff_exists.mp hsome
    obtain ⟨hfound, hspace⟩ := complexType?_some_eq_some_iff.mp ht
    rw [complexType?_none] at hfound
    exact ⟨t, List.mem_of_find?_eq_some hfound, by simpa using List.find?_some hfound, hspace⟩
  · rintro ⟨t, ht, rfl, rfl⟩
    rw [complexType?_of_mem h ht]
    rfl

lemma hasType_markReferences {c : Catalog} {name space : String} :
    c.markReferences.HasType name space ↔ c.HasType name space := by
  constructor
  · rintro ⟨t, ht, hname, hspace⟩
    obtain ⟨u, hu, rfl⟩ := List.mem_map.mp ht
    exact ⟨u, hu, hname, hspace⟩
  · rintro ⟨t, ht, hname, hspace⟩
    exact ⟨c.marked t, List.mem_map_of_mem ht, hname, hspace⟩

/-- Marking adds to the elements marked before exactly those that refer to a type of the catalog. -/
theorem isComplex_mark_iff {c : Catalog} (h : c.typeNames.Nodup) (e : Element) :
    (c.mark e).isComplex = true ↔
      e.isComplex = true ∨ (e.typeName ≠ "" ∧ c.HasType e.typeName e.typeSpace) := by
  have hcond : (e.typeName ≠ "" && (c.complexType? e.typeName (some e.typeSpace)).isSome) = true ↔
      e.typeName ≠ "" ∧ c.HasType e.typeName e.typeSpace := by
    rw [Bool.and_eq_true, decide_eq_true_eq, isSome_complexType?_iff h]
  rw [mark]
  split
  · next hmark => exact ⟨fun _ => Or.inr (hcond.mp hmark), fun _ => rfl⟩
  · next hmark => exact ⟨Or.inl, fun he => he.resolve_right fun href => hmark (hcond.mpr href)⟩

/-- The element is the one that the node declares, and it is marked complex just if the node has an
inline body or the catalog has the type that the element refers to. -/
structure Marks (d : Catalog) (uri : String) (l : Located) (e : Element) : Prop
    extends Element.Declares uri l e where
  isComplex_iff : e.isComplex = true ↔ (Element.inlineBody? l).isSome = true ∨
    (e.typeName ≠ "" ∧ d.HasType e.typeName e.typeSpace)

lemma marks_mark {c : Catalog} (h : c.typeNames.Nodup) {uri : String} {l : Located} {e : Element}
    (he : Element.ReadFrom uri l e) : c.markReferences.Marks uri l (c.mark e) := by
  refine { he.toDeclares.mark c with isComplex_iff := ?_ }
  rw [isComplex_mark_iff h, he.flagged, typeName_mark, typeSpace_mark, hasType_markReferences]

/-- All elements of the catalog of a types section, at the top or in any type, are marked exactly as
their declarations and the types of the finished catalog require. -/
theorem addTypes_marksExactly (types : Option Located) (strict : Bool) :
    ∃ d : Catalog, (empty.addTypes strict types).outcome = .ok d ∧
      List.Forall₂ (fun n e => d.Marks n.1 n.2 e) (elementNodes types) d.heldElements ∧
      ∀ n ∈ elementNodes types, Element.DeclaredIn types n.1 n.2 := by
  refine ⟨_, outcome_addTypes rfl strict types, ?_, fun n => declaredIn_of_mem_elementNodes⟩
  rw [heldElements_markReferences, List.forall₂_map_right_iff]
  have hnames := nodup_typeNames_collected types strict
  exact (readFrom_heldElements types strict).imp fun n e he => marks_mark hnames he

/-- References forward, into another schema, to a promoted type, and one that takes a namespace in
which there is no such type. -/
def crossSchemas : Located := .root <| .element
  { name := ⟨"", "types"⟩
    declarations := [("a", "urn:a"), ("b", "urn:b")]
    attributes := [] }
  [.plain "schema" [("targetNamespace", "urn:a")] [
      .plain "element" [("name", "Later"), ("type", "Item")] [],
      .plain "element" [("name", "Other"), ("type", "b:Row")] [],
      .plain "element" [("name", "Wrong"), ("type", "b:Item")] [],
      .plain "complexType" [("name", "Item")] [.plain "sequence" [] [
        .plain "element" [("name", "Note")] [.plain "complexType" [] [.plain "sequence" [] [
          .plain "element" [("name", "Self"), ("type", "NoteType")] []]]]]]],
    .plain "schema" [("targetNamespace", "urn:b")] [.plain "complexType" [("name", "Row")] []]]

example : (empty.collected false (some crossSchemas)).markReferences.heldElements.map
    (fun e => (e.name, e.isComplex)) =
      [("Later", true), ("Other", true), ("Wrong", false), ("Note", true), ("Self", true)] := by
  decide +kernel

end Catalog
end ServiceDescription.Schema
