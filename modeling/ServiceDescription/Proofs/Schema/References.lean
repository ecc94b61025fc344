import ServiceDescription.Proofs.Schema.Entries
import ServiceDescription.Proofs.Xml.Plain

/-! References to complex types within a catalog. Every element that is marked complex names a type
of the catalog. That type is in the namespace of the reference, unless the element has an inline
body whose made-up name went to a type of a schema with another target namespace. -/
namespace ServiceDescription.Schema
open Xml

namespace Catalog
variable {types : Option Located} {strict : Bool}

/-- Every type of the catalog is in the namespace of a schema. -/
lemma exists_schema_of_mem_collected {t : ComplexType}
    (h : t ∈ (empty.collected strict types).complexTypes) :
    ∃ s ∈ schemasOf types, t.space = targetNamespace s := by
  rw [complexTypes_collected] at h
  rcases List.mem_append.mp h with h | h
  · obtain ⟨⟨uri, l⟩, hl, rfl⟩ := List.mem_map.mp (mem_of_mem_firsts _ h)
    obtain ⟨s, hs, -, rfl⟩ := mem_topLevel_iff.mp hl
    exact ⟨s, hs, ComplexType.space_read _ _ _⟩
  · obtain ⟨r, hr, rfl⟩ := List.mem_map.mp h
    obtain ⟨s, hs, hspace⟩ := (reached_of_granted hr).exists_schema
    exact ⟨s, hs, (InlineType.space_built r).trans hspace⟩

/-- What is asked for at a node is given its name, by its own type or by another one. -/
lemma typeName_mem_of_elementNodes {n : String × Located} (h : n ∈ elementNodes types)
    {r : InlineType} (hr : r ∈ Element.inlineTypes n.2 n.1) :
    r.typeName ∈ (empty.collected strict types).typeNames := by
  rw [typeNames_collected]
  obtain ⟨uri, l⟩ := n
  rcases List.mem_append.mp h with h | h
  · obtain ⟨s, hs, hl, rfl⟩ := mem_topLevel_iff.mp h
    exact InlineType.mem_names_granted (mem_pendingTypes_iff.mpr ⟨s, hs, Or.inr ⟨l, hl, hr⟩⟩)
  · obtain ⟨entry, hentry, hn⟩ := List.mem_flatMap.mp h
    obtain ⟨m, hm, ⟨⟩⟩ := List.mem_map.mp hn
    have hmember : r ∈ ComplexType.inlineTypes entry.node entry.space :=
      List.mem_flatMap.mpr ⟨l, hm, hr⟩
    rcases entries_cases hentry with ⟨⟨space, type⟩, htype, rfl⟩ | ⟨q, hq, rfl⟩
    · obtain ⟨s, hs, hl, rfl⟩ := mem_topLevel_iff.mp htype
      exact InlineType.mem_names_granted
        (mem_pendingTypes_iff.mpr ⟨s, hs, Or.inl ⟨type, hl, hmember⟩⟩)
    · exact InlineType.nested_mem_names_granted hq hmember

/-- The element is the one that the node declares, and if it is marked complex its name is that of a
type of the catalog, in the namespace of a schema. The type has the namespace of the reference, or
else the node has an inline body and the lookup by namespace finds nothing. -/
structure Refers (d : Catalog) (types : Option Located) (uri : String) (l : Located) (e : Element) :
    Prop extends Element.Declares uri l e where
  type : e.isComplex = true → ∃ t ∈ d.complexTypes, d.complexType? e.typeName none = some t ∧
    (∃ s ∈ schemasOf types, t.space = targetNamespace s) ∧
    (d.complexType? e.typeName (some e.typeSpace) = some t ∨
      d.complexType? e.typeName (some e.typeSpace) = none ∧ t.space ≠ e.typeSpace ∧
        (Element.inlineBody? l).isSome)

/-- What is marked complex names a type, either that of its namespace or, by an inline body, any. -/
lemma exists_type_of_isComplex {n : String × Located} {e : Element} (hn : n ∈ elementNodes types)
    (he : Element.ReadFrom n.1 n.2 e)
    (hc : ((empty.collected strict types).mark e).isComplex = true) :
    ∃ t ∈ (empty.collected strict types).complexTypes,
      (empty.collected strict types).complexType? e.typeName none = some t ∧
        (t.space = e.typeSpace ∨ (Element.inlineBody? n.2).isSome) := by
  by_cases hi : (Element.inlineBody? n.2).isSome
  · -- an inline body only makes sure that its name is taken, in whatever namespace
    obtain ⟨body, hbody⟩ := Option.isSome_iff_exists.mp hi
    have hasked : Element.inlineName n.2 ∈ (empty.collected strict types).typeNames :=
      typeName_mem_of_elementNodes hn (Element.mem_inlineTypes_iff.mpr ⟨body, hbody, rfl⟩)
    obtain ⟨t, ht, -, hfound⟩ := exists_complexType? hasked
    rw [(he.inline hi).1]
    exact ⟨t, ht, hfound, Or.inr hi⟩
  · have hplain : e.isComplex = false := by rw [he.flagged, Bool.eq_false_iff]; exact hi
    rw [mark] at hc
    split at hc
    · -- marking has looked for the type in the namespace of the reference
      next hmark =>
      obtain ⟨t, ht⟩ := Option.isSome_iff_exists.mp (Bool.and_eq_true_iff.mp hmark).2
      obtain ⟨hname, hspace⟩ := complexType?_some_eq_some_iff.mp ht
      exact ⟨t, mem_of_complexType? hname, hname, Or.inl hspace⟩
    · exact absurd (hplain.symm.trans hc) (by decide)

lemma refers_mark {n : String × Located} {e : Element} (hn : n ∈ elementNodes types)
    (he : Element.ReadFrom n.1 n.2 e) :
    (empty.collected strict types).markReferences.Refers types n.1 n.2
      ((empty.collected strict types).mark e) := by
  refine { he.toDeclares.mark (empty.collected strict types) with type := fun hc => ?_ }
  obtain ⟨t, ht, hfound, hcase⟩ := exists_type_of_isComplex hn he hc
  have hmarked : (empty.collected strict types).markReferences.complexType? e.typeName none =
      some ((empty.collected strict types).marked t) := by
    rw [complexType?_markReferences, hfound]
    rfl
  obtain ⟨s, hs, hschema⟩ := exists_schema_of_mem_collected ht
  rw [typeName_mark, typeSpace_mark]
  refine ⟨_, List.mem_map_of_mem ht, hmarked, ⟨s, hs, hschema⟩, ?_⟩
  by_cases hspace : t.space = e.typeSpace
  · exact Or.inl (complexType?_some_eq_some_iff.mpr ⟨hmarked, hspace⟩)
  · exact Or.inr ⟨complexType?_some_eq_none hmarked hspace, hspace, hcase.resolve_left hspace⟩

/-- References within the catalog of a types section. The name of every element that is marked
complex is that of a type of the catalog. The type is the one of the namespace that the element
refers to, with one exception: the made-up name of an inline body may belong to a type of a schema
with another target namespace, and then the lookup by namespace finds nothing. So under a single
target namespace nothing dangles. -/
theorem addTypes_references (types : Option Located) (strict : Bool) :
    ∃ d : Catalog, (empty.addTypes strict types).outcome = .ok d ∧
      List.Forall₂ (fun n e => d.Refers types n.1 n.2 e) (elementNodes types) d.heldElements ∧
      (∀ n ∈ elementNodes types, Element.DeclaredIn types n.1 n.2) ∧
      ((∀ s ∈ schemasOf types, ∀ s' ∈ schemasOf types, targetNamespace s = targetNamespace s') →
        ∀ e ∈ d.heldElements, e.isComplex = true →
          (d.complexType? e.typeName (some e.typeSpace)).isSome) := by
  have hrefers : List.Forall₂
      (fun n e => (empty.collected strict types).markReferences.Refers types n.1 n.2 e)
      (elementNodes types) (empty.collected strict types).markReferences.heldElements := by
    rw [heldElements_markReferences, List.forall₂_map_right_iff]
    have hnodes := (List.forall₂_and_left (elementNodes types) _).mpr
      ⟨fun _ hn => hn, readFrom_heldElements types strict⟩
    exact hnodes.imp fun n e hn => refers_mark hn.1 hn.2
  refine ⟨_, outcome_addTypes rfl strict types, hrefers, fun n => declaredIn_of_mem_elementNodes,
    fun hone e he hc => ?_⟩
  obtain ⟨n, hn, href⟩ := Lookup.exists_of_mem_right hrefers he
  obtain ⟨t, -, -, ⟨s, hs, ht⟩, hfound | ⟨-, hspace, hi⟩⟩ := href.type hc
  · rw [hfound]
    rfl
  · obtain ⟨s', hs', hn'⟩ := (declaredIn_of_mem_elementNodes hn).exists_schema
    refine absurd ?_ hspace
    rw [ht, (href.inline hi).2.1, hn']
    exact hone s hs s' hs'

/-- A type in one namespace, and in another one an element whose inline body asks for its name. -/
def rivalSchemas : Located := .root <| .plain "types" [] [
  .plain "schema" [("targetNamespace", "urn:a")] [.plain "complexType" [("name", "FooType")] []],
  .plain "schema" [("targetNamespace", "urn:b")] [
    .plain "element" [("name", "Foo")] [.plain "complexType" [] []]]]

/-- An element may be marked complex without a type of its namespace. -/
theorem rivalSchemas_dangle :
    ∃ d : Catalog, (empty.addTypes false (some rivalSchemas)).outcome = .ok d ∧
      ∃ e ∈ d.heldElements, e.isComplex = true ∧ e.typeName = "FooType" ∧ e.typeSpace = "urn:b" ∧
        d.complexType? e.typeName (some e.typeSpace) = none := by
  refine ⟨_, outcome_addTypes rfl false (some rivalSchemas),
    { name := "Foo", space := "urn:b", typeName := "FooType", typeSpace := "urn:b",
      isComplex := true }, ?_, rfl, rfl, rfl, ?_⟩
  · decide +kernel
  · decide +kernel

end Catalog
end ServiceDescription.Schema
