import ServiceDescription.Proofs.Schema.Promotion

/-! Promotion taken up again. What is pending may be promoted in any number of rounds; what has been
promoted asks for nothing any more, and neither does anything found in it. A request may have been
passed over because another one had taken its name, so it is the name that is never left open. -/
namespace ServiceDescription.Schema
open Xml

/-- Where all names are taken nothing is granted. -/
lemma InlineType.granted_eq_nil {taken : List String} {rs : List InlineType}
    (h : ∀ r ∈ rs, r.typeName ∈ taken) : granted taken rs = [] := by
  induction rs with
  | nil => simp [granted]
  | cons r rest ih =>
    obtain ⟨hr, hrest⟩ := List.forall_mem_cons.mp h
    rw [granted_of_mem hr, ih hrest]

namespace Catalog

/-- What promoting `rs` makes of an open catalog: `after`, with the types `added`. -/
structure Promotes (before : Catalog) (rs : List InlineType) (after : Catalog)
    (added : List ComplexType) : Prop where
  outcome : (before.promote rs).outcome = .ok (after, added)
  /-- What was there stays as it was and where it was. -/
  kept : after = { before with complexTypes := before.complexTypes ++ added }
  /-- Further requests can wait until these are done. -/
  resumed : ∀ ss, ∃ final later, (after.promote ss).outcome = .ok (final, later) ∧
    (before.promote (rs ++ ss)).outcome = .ok (final, added ++ later)
  repeated : (after.promote rs).outcome = .ok (after, [])
  granted : added = (InlineType.granted before.typeNames rs).map (·.built)
  /-- No request is left without a type of its name, be it given or found in a promoted body. -/
  registered : ∀ r ∈ rs, after.hasComplexType r.typeName = true
  nested : ∀ r ∈ InlineType.granted before.typeNames rs, ∀ s ∈ r.nested,
    after.hasComplexType s.typeName = true
  /-- In particular, what the members of the added types refer to is there. -/
  members : ∀ t ∈ added, ∀ e ∈ t.elements, e.isComplex = true →
    after.hasComplexType e.typeName = true

/-- A complex member of a type that has just been built refers to a body nested in it. -/
lemma exists_nested_of_isComplex {r : InlineType} {e : Element} (he : e ∈ r.built.elements)
    (hc : e.isComplex = true) : ∃ s ∈ r.nested, s.typeName = e.typeName := by
  obtain ⟨m, hm, hread⟩ := ComplexType.exists_member_of_mem_read he
  have hinline : (Element.inlineBody? m).isSome := by rw [← hread.flagged, hc]
  obtain ⟨body, hbody⟩ := Option.isSome_iff_exists.mp hinline
  refine ⟨⟨Element.inlineName m, body, r.space⟩, List.mem_flatMap.mpr ⟨m, hm, ?_⟩, ?_⟩
  · rw [Element.inlineTypes, hbody]
    exact List.mem_singleton_self _
  · exact (hread.inline hinline).1.symm

/-- Promotion composes and absorbs repetition, and nothing dangles after it. On an open catalog it
succeeds; promoting some requests and then others is promoting all of them at once, and promoting
the same ones again changes nothing, because every name that came up is registered. -/
theorem promote_composes (c : Catalog) (rs : List InlineType) (h : c.frozen = false) :
    ∃ after added, c.Promotes rs after added := by
  obtain ⟨added, hadded⟩ : ∃ added, added = (InlineType.granted c.typeNames rs).map (·.built) :=
    ⟨_, rfl⟩
  have hfirst : (c.promote rs).outcome = .ok (c.withTypes added, added) := by
    rw [hadded, outcome_promote h rs]
  have hopen : (c.withTypes added).frozen = false := h
  -- the types added have the names of the requests that were granted
  have hnames : (c.withTypes added).typeNames =
      c.typeNames ++ (InlineType.granted c.typeNames rs).map (·.typeName) := by
    rw [hadded, typeNames_withTypes, InlineType.names_built]
  have hnested : ∀ r ∈ InlineType.granted c.typeNames rs, ∀ s ∈ r.nested,
      (c.withTypes added).hasComplexType s.typeName = true := by
    intro r hr s hs
    rw [hasComplexType_iff, hnames]
    exact InlineType.nested_mem_names_granted hr hs
  refine ⟨c.withTypes added, added, ⟨hfirst, rfl, fun ss => ?_, ?_, hadded, fun r hr => ?_, hnested,
    fun t ht e he hc => ?_⟩⟩
  · have hlater := outcome_promote hopen ss
    refine ⟨_, _, hlater, ?_⟩
    rw [promote_append, outcome_bind hfirst, outcome_bind hlater, outcome_pure]
  · rw [outcome_promote hopen, hnames,
      InlineType.granted_eq_nil fun r hr => InlineType.mem_names_granted hr, List.map_nil,
      withTypes_nil]
  · rw [hasComplexType_iff, hnames]
    exact InlineType.mem_names_granted hr
  · rw [hadded] at ht
    obtain ⟨r, hr, rfl⟩ := List.mem_map.mp ht
    obtain ⟨s, hs, hname⟩ := exists_nested_of_isComplex he hc
    rw [← hname]
    exact hnested r hr s hs

/-- Of two requests for one name the first is granted, and of the two bodies found in it only one:
the name of the other is taken. -/
theorem promote_composes_twiceRequested :
    let c : Catalog := { complexTypes := [{ name := "BType" }] }
    c.frozen = false ∧ ∃ after added, c.Promotes twiceRequested after added ∧
      added.map (·.name) = ["AType", "CType"] := by
  refine ⟨rfl, ?_⟩
  obtain ⟨after, added, h⟩ := promote_composes { complexTypes := [{ name := "BType" }] }
    twiceRequested rfl
  refine ⟨after, added, h, ?_⟩
  rw [h.granted, InlineType.names_built]
  decide +kernel

end Catalog
end ServiceDescription.Schema
