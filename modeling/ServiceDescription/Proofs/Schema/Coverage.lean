import ServiceDescription.Proofs.Schema.Marking
import ServiceDescription.Proofs.Xml.Plain

/-! No type of a types section is lost or doubled. Where all names differ the catalog has one type
for every declared one, then one for every inline body, each with the members of its own node, and
every element with an inline body refers to the type built from this body. -/
namespace ServiceDescription.Schema
open Xml

/-- All complex types of a types section, the inline ones under the names made up for them, have
different names. -/
structure DistinctNames (types : Option Located) : Prop where
  declared : ((topLevel "complexType" types).map fun d => d.2.attr "name").Nodup
  reached : ∀ r s : InlineType, r.Reached types → s.Reached types → r.typeName = s.typeName → r = s
  apart : ∀ d ∈ topLevel "complexType" types, ∀ r : InlineType, r.Reached types →
    d.2.attr "name" ≠ r.typeName

lemma names_declaredTypes (types : Option Located) :
    (declaredTypes types).map (·.name) =
      (topLevel "complexType" types).map fun d => d.2.attr "name" := by
  simp [declaredTypes, Function.comp_def]

lemma DistinctNames.nodup {types : Option Located} (h : DistinctNames types) :
    ((declaredTypes types).map (·.name) ++ (reachedTypes types).map (·.typeName)).Nodup := by
  rw [names_declaredTypes, List.nodup_append]
  refine ⟨h.declared, ?_, fun a ha b hb => ?_⟩
  · refine List.Nodup.map_on (fun r hr s hs => ?_) (nodup_reachedTypes types)
    exact h.reached r s (mem_reachedTypes_iff.mp hr) (mem_reachedTypes_iff.mp hs)
  · obtain ⟨d, hd, rfl⟩ := List.mem_map.mp ha
    obtain ⟨r, hr, rfl⟩ := List.mem_map.mp hb
    exact h.apart d hd r (mem_reachedTypes_iff.mp hr)

theorem distinctNames_iff {types : Option Located} :
    DistinctNames types ↔
      ((declaredTypes types).map (·.name) ++ (reachedTypes types).map (·.typeName)).Nodup := by
  refine ⟨DistinctNames.nodup, fun h => ?_⟩
  rw [names_declaredTypes, List.nodup_append] at h
  obtain ⟨hdeclared, hreached, hapart⟩ := h
  refine ⟨hdeclared, fun r s hr hs hname => ?_, fun d hd r hr => ?_⟩
  · exact List.inj_on_of_nodup_map hreached (mem_reachedTypes_iff.mpr hr)
      (mem_reachedTypes_iff.mpr hs) hname
  · exact hapart _ (List.mem_map_of_mem hd) _ (List.mem_map_of_mem (mem_reachedTypes_iff.mpr hr))

instance (types : Option Located) : Decidable (DistinctNames types) :=
  decidable_of_iff _ distinctNames_iff.symm

namespace Catalog

/-- The element is the one that the node declares, and with an inline body it refers to the type
that the catalog has built from this body. -/
structure Holds (d : Catalog) (uri : String) (l : Located) (e : Element) : Prop
    extends Element.Declares uri l e where
  resolved : ∀ body, Element.inlineBody? l = some body →
    d.complexType? e.typeName (some e.typeSpace) =
      some (d.marked (ComplexType.read body uri (some (Element.inlineName l))).value)

/-- The type is built from the node under the name `name`, and its members are those of the node in
the order of their declaration. -/
structure EntryFor (d : Catalog) (uri name : String) (l : Located) (t : ComplexType) : Prop where
  built : t = d.marked (ComplexType.read l uri (some name)).value
  name : t.name = name
  space : t.space = uri
  members : List.Forall₂ (d.Holds uri) (ComplexType.memberNodes l) t.elements

lemma keptTypes_of_distinct {types : Option Located} (h : DistinctNames types) :
    keptTypes types = declaredTypes types :=
  firsts_eq_self _ (List.nodup_append.mp h.nodup).1

lemma grantedTypes_of_distinct {types : Option Located} (h : DistinctNames types) :
    grantedTypes types = reachedTypes types := by
  rw [grantedTypes, keptTypes_of_distinct h]
  exact InlineType.granted_eq_depthFirst h.nodup

variable {types : Option Located} {strict : Bool}

/-- An inline body that has been promoted is found under the reference to it. -/
lemma holds_mark (h : DistinctNames types) {uri : String} {l : Located} {e : Element}
    (he : Element.Declares uri l e)
    (hl : ∀ body, Element.inlineBody? l = some body →
      InlineType.Reached types ⟨Element.inlineName l, body, uri⟩) :
    (empty.collected strict types).markReferences.Holds uri l
      ((empty.collected strict types).mark e) := by
  have hmark := he.mark (empty.collected strict types)
  refine { hmark with resolved := fun body hb => ?_ }
  obtain ⟨hname, hspace, -⟩ := hmark.inline (by rw [hb]; rfl)
  have hmem : InlineType.built ⟨Element.inlineName l, body, uri⟩ ∈
      (empty.collected strict types).complexTypes := by
    rw [complexTypes_collected, grantedTypes_of_distinct h]
    exact List.mem_append_right _ (List.mem_map_of_mem (mem_reachedTypes_iff.mpr (hl body hb)))
  have hnodup : (empty.collected strict types).typeNames.Nodup := by
    rw [typeNames_collected, keptTypes_of_distinct h, grantedTypes_of_distinct h]
    exact h.nodup
  have hfound := complexType?_of_mem hnodup hmem
  rw [InlineType.name_built, InlineType.space_built] at hfound
  rw [hname, hspace, complexType?_markReferences, hfound, marked_markReferences]
  rfl

/-- A type read from its node is an entry for it once the references are marked. -/
lemma entryFor_read (h : DistinctNames types) {uri name : String} {l : Located}
    (hl : ∀ r ∈ ComplexType.inlineTypes l uri, r.Reached types) :
    (empty.collected strict types).markReferences.EntryFor uri name l
      ((empty.collected strict types).marked (ComplexType.read l uri (some name)).value) where
  built := by rw [marked_markReferences]
  name := ComplexType.name_read l uri (some name)
  space := ComplexType.space_read l uri (some name)
  members := by
    rw [marked, List.forall₂_map_right_iff]
    have hinline : ∀ m ∈ ComplexType.memberNodes l, ∀ body, Element.inlineBody? m = some body →
        InlineType.Reached types ⟨Element.inlineName m, body, uri⟩ := fun m hm body hb =>
      hl _ (ComplexType.mem_inlineTypes_iff.mpr ⟨m, hm, body, hb, rfl⟩)
    refine ((List.forall₂_and_left _ _).mpr
      ⟨hinline, ComplexType.readFrom_read l uri (some name)⟩).imp ?_
    exact fun m e hm => holds_mark h hm.2.toDeclares hm.1

/-- Reading a types section in which all names differ: the catalog has one type for every declared
one in document order, then one for every inline body, depth first, and nothing else; members are
those of the nodes, and references to inline bodies lead to the types built from them. -/
theorem addTypes_covers (types : Option Located) (h : DistinctNames types) :
    ∃ (d : Catalog) (declared promoted : List ComplexType),
      (empty.addTypes false types).outcome = .ok d ∧
      d.complexTypes = declared ++ promoted ∧
      List.Forall₂ (fun n t => d.EntryFor n.1 (n.2.attr "name") n.2 t)
        (topLevel "complexType" types) declared ∧
      List.Forall₂ (fun r t => d.EntryFor r.space r.typeName r.body t)
        (reachedTypes types) promoted ∧
      List.Forall₂ (fun n e => d.Holds n.1 n.2 e) (topLevel "element" types) d.elements ∧
      (reachedTypes types).Nodup ∧ ∀ r : InlineType, r ∈ reachedTypes types ↔ r.Reached types := by
  let c := empty.collected false types
  refine ⟨c.markReferences, (declaredTypes types).map c.marked,
    ((reachedTypes types).map (·.built)).map c.marked, outcome_addTypes rfl false types,
    ?_, ?_, ?_, ?_, nodup_reachedTypes types, fun r => mem_reachedTypes_iff⟩
  · rw [complexTypes_markReferences, complexTypes_collected, keptTypes_of_distinct h,
      grantedTypes_of_distinct h, List.map_append]
  · rw [declaredTypes, List.map_map, List.forall₂_map_right_iff, List.forall₂_same]
    rintro ⟨uri, l⟩ hn
    obtain ⟨s, hs, hl, rfl⟩ := mem_topLevel_iff.mp hn
    exact entryFor_read h fun r hr =>
      .of_pending (mem_pendingTypes_iff.mpr ⟨s, hs, Or.inl ⟨l, hl, hr⟩⟩)
  · rw [List.map_map, List.forall₂_map_right_iff, List.forall₂_same]
    intro r hr
    exact entryFor_read h fun s hs => (mem_reachedTypes_iff.mp hr).nested hs
  · rw [elements_markReferences, elements_collected, declaredElements, List.map_map,
      List.forall₂_map_right_iff, List.forall₂_same]
    rintro ⟨uri, l⟩ hn
    obtain ⟨s, hs, hl, rfl⟩ := mem_topLevel_iff.mp hn
    exact holds_mark h (Element.readFrom_ofDeclaration _ l).toDeclares
      fun body hb => .ofElement hs hl hb

/-- Two schemas with inline bodies in a declared type, in an inline body and in an element. -/
def orderSchemas : Located := .root <| .plain "types" [] [
  .plain "schema" [("targetNamespace", "urn:a")] [
    .plain "element" [("name", "Req")] [.plain "complexType" [] []],
    .plain "complexType" [("name", "Order")] [.plain "sequence" [] [
      .plain "element" [("name", "Line"), ("maxOccurs", "unbounded")] [
        .plain "complexType" [] [.plain "all" [] [
          .plain "element" [("name", "Item")] [.plain "complexType" [] []]]]],
      .plain "element" [("name", "Note"), ("type", "Note")] []]]],
  .plain "schema" [("targetNamespace", "urn:b")] [.plain "complexType" [("name", "Note")] []]]

theorem addTypes_covers_orderSchemas :
    DistinctNames (some orderSchemas) ∧
      (reachedTypes (some orderSchemas)).map (·.typeName) = ["LineType", "ItemType", "ReqType"] ∧
      ∃ (d : Catalog) (declared promoted : List ComplexType),
        (empty.addTypes false (some orderSchemas)).outcome = .ok d ∧
        d.complexTypes = declared ++ promoted ∧
        List.Forall₂ (fun n t => d.EntryFor n.1 (n.2.attr "name") n.2 t)
          (topLevel "complexType" (some orderSchemas)) declared ∧
        List.Forall₂ (fun r t => d.EntryFor r.space r.typeName r.body t)
          (reachedTypes (some orderSchemas)) promoted ∧
        List.Forall₂ (fun n e => d.Holds n.1 n.2 e)
          (topLevel "element" (some orderSchemas)) d.elements := by
  have hdistinct : DistinctNames (some orderSchemas) := by decide +kernel
  obtain ⟨d, declared, promoted, hread, hsplit, hdeclared, hpromoted, helements, -⟩ :=
    addTypes_covers (some orderSchemas) hdistinct
  exact ⟨hdistinct, by decide +kernel, d, declared, promoted, hread, hsplit, hdeclared, hpromoted,
    helements⟩

end Catalog
end ServiceDescription.Schema
