import ServiceDescription.Proofs.Schema.Reading
import ServiceDescription.Proofs.Schema.Store
import ServiceDescription.Proofs.Xml.Plain

/-! Promotion with a list of pending bodies is the recursion that finishes with a body, and with all
bodies found in it, before it looks at the next request. -/
namespace ServiceDescription.Schema
open Xml

namespace InlineType

/-- The type that a request asks for. -/
def built (r : InlineType) : ComplexType :=
  (ComplexType.read r.body r.space (some r.typeName)).value

@[simp] theorem name_built (r : InlineType) : r.built.name = r.typeName :=
  ComplexType.name_read r.body r.space (some r.typeName)

@[simp] theorem space_built (r : InlineType) : r.built.space = r.space :=
  ComplexType.space_read r.body r.space (some r.typeName)

@[simp] theorem names_built (rs : List InlineType) :
    (rs.map built).map (·.name) = rs.map (·.typeName) := by simp [Function.comp_def]

/-- The requests found in the body of another one. -/
def nested (r : InlineType) : List InlineType := ComplexType.inlineTypes r.body r.space

lemma weights_nested_lt (r : InlineType) : weights r.nested < r.body.weight :=
  ComplexType.weights_inlineTypes_lt r.body r.space

lemma body_weight_pos (r : InlineType) : 0 < r.body.weight :=
  Nat.zero_lt_of_lt r.body.weights_children_lt

/-- The requests that promotion grants when the names `taken` are taken, in the order in which it
grants them. -/
def granted (taken : List String) : List InlineType → List InlineType
  | [] => []
  | r :: rest =>
    if r.typeName ∈ taken then granted taken rest
    else r :: granted (taken ++ [r.typeName]) (r.nested ++ rest)
termination_by rs => weights rs
decreasing_by
  · have := r.body_weight_pos
    simp; omega
  · have := r.weights_nested_lt
    simp; omega

lemma granted_of_mem {taken : List String} {r : InlineType} (h : r.typeName ∈ taken)
    (rest : List InlineType) : granted taken (r :: rest) = granted taken rest := by
  rw [granted, if_pos h]

lemma granted_of_notMem {taken : List String} {r : InlineType} (h : r.typeName ∉ taken)
    (rest : List InlineType) :
    granted taken (r :: rest) = r :: granted (taken ++ [r.typeName]) (r.nested ++ rest) := by
  rw [granted, if_neg h]

lemma notMem_of_mem_granted {taken : List String} {rs : List InlineType} {r : InlineType}
    (h : r ∈ granted taken rs) : r.typeName ∉ taken := by
  induction taken, rs using granted.induct with
  | case1 taken => simp [granted] at h
  | case2 taken s rest hs ih => rw [granted_of_mem hs] at h; exact ih h
  | case3 taken s rest hs ih =>
    rw [granted_of_notMem hs] at h
    rcases List.mem_cons.mp h with rfl | h
    · exact hs
    · exact fun hr => ih h (List.mem_append_left _ hr)

theorem nodup_granted (taken : List String) (rs : List InlineType) :
    ((granted taken rs).map (·.typeName)).Nodup := by
  induction taken, rs using granted.induct with
  | case1 taken => simp [granted]
  | case2 taken r rest hr ih => rwa [granted_of_mem hr]
  | case3 taken r rest hr ih =>
    rw [granted_of_notMem hr, List.map_cons, List.nodup_cons]
    refine ⟨fun hmem => ?_, ih⟩
    obtain ⟨s, hs, hname⟩ := List.mem_map.mp hmem
    exact notMem_of_mem_granted hs (by simp [hname])

/-- After promotion the name of every request is taken, by its own type or by another. -/
lemma mem_names_granted {taken : List String} {rs : List InlineType} {r : InlineType}
    (h : r ∈ rs) : r.typeName ∈ taken ++ (granted taken rs).map (·.typeName) := by
  induction taken, rs using granted.induct with
  | case1 taken => cases h
  | case2 taken s rest hs ih =>
    rw [granted_of_mem hs]
    rcases List.mem_cons.mp h with rfl | h
    · exact List.mem_append_left _ hs
    · exact ih h
  | case3 taken s rest hs ih =>
    rw [granted_of_notMem hs, List.map_cons, List.append_cons]
    rcases List.mem_cons.mp h with rfl | h
    · exact List.mem_append_left _ (by simp)
    · exact ih (List.mem_append_right _ h)

lemma nested_mem_names_granted {taken : List String} {rs : List InlineType} {r s : InlineType}
    (hr : r ∈ granted taken rs) (hs : s ∈ r.nested) :
    s.typeName ∈ taken ++ (granted taken rs).map (·.typeName) := by
  induction taken, rs using granted.induct with
  | case1 taken => simp [granted] at hr
  | case2 taken q rest hq ih =>
    rw [granted_of_mem hq] at hr ⊢
    exact ih hr
  | case3 taken q rest hq ih =>
    rw [granted_of_notMem hq] at hr
    rw [granted_of_notMem hq, List.map_cons, List.append_cons]
    rcases List.mem_cons.mp hr with rfl | hr
    · exact mem_names_granted (List.mem_append_left _ hs)
    · exact ih hr

end InlineType

namespace Catalog

/-- Promotion request by request: a request whose name is taken is passed over with everything in
its body; for any other one the type is built and added, and the requests of its members are
promoted before the requests that follow. -/
def promoteEach (c : Catalog) : List InlineType → Attempt (Catalog × List ComplexType)
  | [] => return (c, [])
  | r :: rest =>
    if c.hasComplexType r.typeName then do
      Reported.report (.inlineTypeKnown r.typeName)
      c.promoteEach rest
    else do
      let type ← liftM (ComplexType.read r.body r.space (some r.typeName))
      let c ← c.add (.complexType type)
      let nested := ComplexType.inlineTypes r.body r.space
      Reported.report (.inlineTypePromoted type.name nested.length)
      let (c, inner) ← c.promoteEach nested
      let (c, later) ← c.promoteEach rest
      return (c, type :: (inner ++ later))
termination_by rs => InlineType.weights rs
decreasing_by
  · have := r.body.weights_children_lt
    simp; omega
  · have := ComplexType.weights_inlineTypes_lt r.body r.space
    simp; omega
  · have := r.body.weights_children_lt
    simp; omega

/-- What is pending can be promoted in two parts. -/
theorem InPlace.promote_append (rs ss : List InlineType) :
    promote (rs ++ ss) = do
      let first ← promote rs
      let second ← promote ss
      return first ++ second := by
  induction rs using promote.induct with
  | case1 => simp [promote]
  | case2 r rest ihRest ihNested =>
    rw [List.cons_append, promote, promote, bind_assoc]
    apply bind_congr
    intro c
    split
    · simp [ihRest]
    · -- the rest is pending behind the requests nested in the body
      simp only [List.append_assoc] at ihNested
      simp [ihNested]

theorem InPlace.attempted_promote (c : Catalog) (rs : List InlineType) :
    (promote rs).attempted c = c.promote rs := rfl

theorem promote_append (c : Catalog) (rs ss : List InlineType) :
    c.promote (rs ++ ss) = do
      let (c, first) ← c.promote rs
      let (c, second) ← c.promote ss
      return (c, first ++ second) := by
  simp [promote, InPlace.promote_append, InPlace.attempted_bind, InPlace.attempted_map]

/-- The pending list does the work of the recursion: same catalog, same types, same events. -/
theorem promote_eq_promoteEach (c : Catalog) (rs : List InlineType) :
    c.promote rs = c.promoteEach rs := by
  induction c, rs using promoteEach.induct with
  | case1 c => rw [promote, InPlace.promote, promoteEach, InPlace.attempted_pure]
  | case2 c r rest h ih =>
    rw [promote, InPlace.promote, promoteEach, if_pos h]
    simp [InPlace.attempted_bind, InPlace.attempted_promote, h, ih]
  | case3 c r rest h ihNested ihRest =>
    rw [promote, InPlace.promote, promoteEach, if_neg h]
    -- the nested requests are pending in front of the rest: `promote_append` parts the two
    simp [InPlace.attempted_bind, InPlace.attempted_map, InPlace.attempted_add,
      InPlace.attempted_promote, h, promote_append, ihNested, ihRest]

/-- On an open catalog promotion adds the types that are granted, and nothing else happens. -/
theorem InPlace.ends_promote {c : Catalog} (h : c.frozen = false) (rs : List InlineType) :
    (promote rs).Ends c (.ok ((InlineType.granted c.typeNames rs).map (·.built)))
      (c.withTypes ((InlineType.granted c.typeNames rs).map (·.built))) := by
  induction rs using promote.induct generalizing c with
  | case1 =>
    simp only [promote, InlineType.granted, List.map_nil, withTypes_nil]
    exact leaves_pure c []
  | case2 r rest ihRest ihNested =>
    rw [promote]
    refine Ends.bind (leaves_get c) ?_
    by_cases hr : c.hasComplexType r.typeName
    · rw [if_pos hr, InlineType.granted_of_mem (hasComplexType_iff.mp hr)]
      exact Ends.bind (leaves_lift c _) (ihRest h)
    · have hmem : r.typeName ∉ c.typeNames := fun hm => hr (hasComplexType_iff.mpr hm)
      have hinsert : c.insert (.complexType r.built) = c.withTypes [r.built] :=
        insert_complexType (by rwa [InlineType.name_built])
      have hlater := ihNested (c := c.withTypes [r.built]) h
      rw [typeNames_withTypes, List.map_singleton, InlineType.name_built] at hlater
      rw [if_neg hr, InlineType.granted_of_notMem hmem]
      refine Ends.bind (leaves_lift c _) (Ends.bind (ends_add h _) ?_)
      show Ends _ (c.insert (.complexType r.built)) _ _
      rw [hinsert]
      refine Ends.bind (leaves_lift _ _) (Ends.bind hlater ?_)
      rw [withTypes_withTypes]
      exact leaves_pure _ _

theorem outcome_promote {c : Catalog} (h : c.frozen = false) (rs : List InlineType) :
    (c.promote rs).outcome =
      .ok (c.withTypes ((InlineType.granted c.typeNames rs).map (·.built)),
        (InlineType.granted c.typeNames rs).map (·.built)) :=
  (InPlace.ends_promote h rs).outcome

/-- Promotion is the depth-first recursion: on an open catalog both end in the same catalog, with
the same types in the same order, and with the same list of types. That list is what the catalog
has gained, and it has no name twice. -/
theorem promote_depthFirst (c : Catalog) (rs : List InlineType) (h : c.frozen = false) :
    c.promote rs = c.promoteEach rs ∧
      ∃ added : List ComplexType,
        (c.promote rs).outcome =
            .ok ({ c with complexTypes := c.complexTypes ++ added }, added) ∧
          (added.map (·.name)).Nodup ∧ ∀ t ∈ added, c.hasComplexType t.name = false := by
  refine ⟨promote_eq_promoteEach c rs, _, outcome_promote h rs, ?_, fun t ht => ?_⟩
  · rw [InlineType.names_built]
    exact InlineType.nodup_granted c.typeNames rs
  · obtain ⟨r, hr, rfl⟩ := List.mem_map.mp ht
    rw [Bool.eq_false_iff, Ne, hasComplexType_iff, InlineType.name_built]
    exact InlineType.notMem_of_mem_granted hr

/-- A body with two inline members, asked for twice under one name. -/
def twiceRequested : List InlineType :=
  let body := Located.root <| .plain "complexType" [] [.plain "sequence" [] [
    .plain "element" [("name", "B")] [.plain "complexType" [] []],
    .plain "element" [("name", "C")] [.plain "complexType" [] []]]]
  [⟨"AType", body, "urn:a"⟩, ⟨"AType", body, "urn:b"⟩]

theorem promote_depthFirst_twiceRequested :
    let c : Catalog := { complexTypes := [{ name := "BType" }] }
    c.frozen = false ∧ c.promote twiceRequested = c.promoteEach twiceRequested ∧
      ∃ added : List ComplexType,
        (c.promote twiceRequested).outcome =
            .ok ({ c with complexTypes := c.complexTypes ++ added }, added) ∧
          (added.map (·.name)).Nodup ∧ ∀ t ∈ added, c.hasComplexType t.name = false :=
  ⟨rfl, promote_depthFirst _ twiceRequested rfl⟩

end Catalog
end ServiceDescription.Schema
