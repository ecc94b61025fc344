import ServiceDescription.Proofs.Schema.Promotion
import ServiceDescription.Proofs.Xml.Position

/-! The inline bodies of a types section: all those reached from the declared types and elements by
going through members, listed depth first. Each is listed once, because the bodies found in one
place stand apart. Where no name is asked for twice, promotion grants exactly this list. -/
namespace ServiceDescription.Schema
open Xml

namespace ComplexType

lemma mem_descendants_of_derivation? {l d : Located} {kind : String}
    (h : derivation? l kind = some d) : d ∈ l.descendants := by
  obtain ⟨model, -, hm⟩ := List.exists_of_findSome?_eq_some h
  obtain ⟨content, hc, hd⟩ := Option.bind_eq_some_iff.mp hm
  have hcontent := Located.mem_descendants_of_childNamed? hc
  exact Located.descendants_subset hcontent (Located.mem_descendants_of_childNamed? hd)

lemma mem_descendants_of_memberGroup? {l g : Located} (h : memberGroup? l = some g) :
    g ∈ l.descendants := by
  obtain ⟨holder, hmem, hg⟩ := List.exists_of_findSome?_eq_some h
  obtain ⟨name, -, hn⟩ := List.exists_of_findSome?_eq_some hg
  have hchild := Located.mem_descendants_of_childNamed? hn
  rcases List.mem_cons.mp hmem with rfl | hmem
  · exact hchild
  · obtain ⟨kind, -, hk⟩ := List.mem_filterMap.mp hmem
    exact Located.descendants_subset (mem_descendants_of_derivation? hk) hchild

lemma mem_descendants_of_mem_memberNodes {l m : Located} (h : m ∈ memberNodes l) :
    m ∈ l.descendants := by
  rw [memberNodes] at h
  split at h
  · next g hg =>
    have hm := Located.mem_descendants_of_mem_children (Located.mem_children_of_named h)
    exact Located.descendants_subset (mem_descendants_of_memberGroup? hg) hm
  · cases h

lemma pairwise_memberNodes (l : Located) : (memberNodes l).Pairwise Located.Apart := by
  rw [memberNodes]
  split
  · next g hg => exact g.pairwise_childrenNamed "element" none
  · exact .nil

end ComplexType

namespace InlineType

def Apart (r s : InlineType) : Prop := r.body.Apart s.body

/-- What is found within nodes that stand apart stands apart. -/
lemma pairwise_flatMap {ls : List Located} {f : Located → List InlineType}
    (hls : ls.Pairwise Located.Apart) (hf : ∀ l ∈ ls, (f l).Pairwise Apart)
    (hwithin : ∀ l ∈ ls, ∀ r ∈ f l, r.body.Within l) : (ls.flatMap f).Pairwise Apart := by
  refine List.pairwise_flatMap.mpr ⟨hf, ?_⟩
  refine hls.imp_of_mem fun {a b} ha hb hab r hr s hs => ?_
  exact hab.mono (hwithin a ha r hr) (hwithin b hb s hs)

end InlineType

lemma Element.mem_inlineTypes_iff {l : Located} {uri : String} {r : InlineType} :
    r ∈ inlineTypes l uri ↔ ∃ body, inlineBody? l = some body ∧ r = ⟨inlineName l, body, uri⟩ := by
  simp [inlineTypes, eq_comm]

lemma Element.pairwise_inlineTypes (l : Located) (uri : String) :
    (inlineTypes l uri).Pairwise InlineType.Apart := by
  rw [inlineTypes]
  cases inlineBody? l <;> simp

lemma Element.mem_descendants_of_mem_inlineTypes {l : Located} {uri : String} {r : InlineType}
    (h : r ∈ inlineTypes l uri) : r.body ∈ l.descendants := by
  obtain ⟨body, hbody, rfl⟩ := mem_inlineTypes_iff.mp h
  exact Located.mem_descendants_of_childNamed? hbody

lemma Element.below_of_mem_inlineTypes {l : Located} {uri : String} {r : InlineType}
    (h : r ∈ inlineTypes l uri) : r.body.Below l :=
  Located.below_of_mem_descendants (mem_descendants_of_mem_inlineTypes h)

lemma ComplexType.mem_inlineTypes_iff {l : Located} {uri : String} {r : InlineType} :
    r ∈ inlineTypes l uri ↔ ∃ m ∈ memberNodes l, ∃ body, Element.inlineBody? m = some body ∧
      r = ⟨Element.inlineName m, body, uri⟩ := by
  simp [inlineTypes, Element.mem_inlineTypes_iff]

/-- The bodies for which a type asks stand in its own node. -/
lemma ComplexType.mem_descendants_of_mem_inlineTypes {l : Located} {uri : String} {r : InlineType}
    (h : r ∈ inlineTypes l uri) : r.body ∈ l.descendants := by
  obtain ⟨m, hm, hr⟩ := List.mem_flatMap.mp h
  exact Located.descendants_subset (mem_descendants_of_mem_memberNodes hm)
    (Element.mem_descendants_of_mem_inlineTypes hr)

lemma ComplexType.below_of_mem_inlineTypes {l : Located} {uri : String} {r : InlineType}
    (h : r ∈ inlineTypes l uri) : r.body.Below l :=
  Located.below_of_mem_descendants (mem_descendants_of_mem_inlineTypes h)

theorem ComplexType.pairwise_inlineTypes (l : Located) (uri : String) :
    (inlineTypes l uri).Pairwise InlineType.Apart :=
  InlineType.pairwise_flatMap (pairwise_memberNodes l)
    (fun m _ => Element.pairwise_inlineTypes m uri)
    (fun _ _ _ hr => (Element.below_of_mem_inlineTypes hr).within)

lemma Fragment.within_of_mem_inlineTypes {l : Located} {r : InlineType} (h : r ∈ inlineTypes l) :
    r.body.Within l := by
  rcases List.mem_append.mp h with h | h
  · obtain ⟨t, ht, hr⟩ := List.mem_flatMap.mp h
    have hbelow := Located.below_of_mem_children (Located.mem_children_of_named ht)
    exact (ComplexType.below_of_mem_inlineTypes hr).within.trans hbelow.within
  · obtain ⟨e, he, hr⟩ := List.mem_flatMap.mp h
    have hbelow := Located.below_of_mem_children (Located.mem_children_of_named he)
    exact (Element.below_of_mem_inlineTypes hr).within.trans hbelow.within

lemma Fragment.pairwise_inlineTypes (l : Located) :
    (inlineTypes l).Pairwise InlineType.Apart := by
  refine List.pairwise_append.mpr ⟨?_, ?_, fun r hr s hs => ?_⟩
  · exact InlineType.pairwise_flatMap (l.pairwise_childrenNamed _ _)
      (fun t _ => ComplexType.pairwise_inlineTypes t _)
      (fun _ _ _ hr => (ComplexType.below_of_mem_inlineTypes hr).within)
  · exact InlineType.pairwise_flatMap (l.pairwise_childrenNamed _ _)
      (fun e _ => Element.pairwise_inlineTypes e _)
      (fun _ _ _ hr => (Element.below_of_mem_inlineTypes hr).within)
  · obtain ⟨t, ht, hr⟩ := List.mem_flatMap.mp hr
    obtain ⟨e, he, hs⟩ := List.mem_flatMap.mp hs
    have hte : t ≠ e := by
      rintro rfl
      exact absurd ((Located.localName_of_named ht).symm.trans (Located.localName_of_named he))
        (by decide)
    exact (Located.apart_of_children (Located.mem_children_of_named ht)
      (Located.mem_children_of_named he) hte).mono (ComplexType.below_of_mem_inlineTypes hr).within
      (Element.below_of_mem_inlineTypes hs).within

/-- The requests with which promotion of a types section starts. -/
def pendingTypes (types : Option Located) : List InlineType :=
  (Catalog.schemasOf types).flatMap Fragment.inlineTypes

lemma mem_pendingTypes_iff {types : Option Located} {r : InlineType} :
    r ∈ pendingTypes types ↔ ∃ s ∈ Catalog.schemasOf types,
      (∃ t ∈ s.childrenNamed "complexType" none,
        r ∈ ComplexType.inlineTypes t (targetNamespace s)) ∨
      ∃ e ∈ s.childrenNamed "element" none, r ∈ Element.inlineTypes e (targetNamespace s) := by
  simp [pendingTypes, Fragment.inlineTypes]

theorem pairwise_pendingTypes (types : Option Located) :
    (pendingTypes types).Pairwise InlineType.Apart := by
  refine InlineType.pairwise_flatMap ?_ (fun l _ => Fragment.pairwise_inlineTypes l)
    (fun _ _ _ hr => Fragment.within_of_mem_inlineTypes hr)
  cases types with
  | none => exact .nil
  | some l => exact l.pairwise_childrenNamed "schema" none

namespace InlineType

/-- All bodies reached from a list of requests: each before those found in it, and these before
those of the next request. -/
def depthFirst : List InlineType → List InlineType
  | [] => []
  | r :: rest => r :: (depthFirst r.nested ++ depthFirst rest)
termination_by rs => weights rs
decreasing_by
  · have := r.weights_nested_lt
    simp; omega
  · have := r.body_weight_pos
    simp; omega

@[simp] theorem depthFirst_nil : depthFirst [] = [] := by rw [depthFirst]
theorem depthFirst_cons (r : InlineType) (rest : List InlineType) :
    depthFirst (r :: rest) = r :: (depthFirst r.nested ++ depthFirst rest) := by rw [depthFirst]

theorem depthFirst_append (rs ss : List InlineType) :
    depthFirst (rs ++ ss) = depthFirst rs ++ depthFirst ss := by
  induction rs with
  | nil => simp
  | cons r rest ih => simp [depthFirst_cons, ih]

lemma subset_depthFirst (rs : List InlineType) : rs ⊆ depthFirst rs := by
  induction rs with
  | nil => exact List.nil_subset _
  | cons r rest ih =>
    rw [depthFirst_cons]
    exact List.cons_subset_cons r (List.Subset.trans ih (List.subset_append_right _ _))

/-- A property of the requests at the start that passes to nested ones holds of all. -/
lemma forall_depthFirst {P : InlineType → Prop} {rs : List InlineType} (hrs : ∀ r ∈ rs, P r)
    (hnested : ∀ r, P r → ∀ s ∈ r.nested, P s) : ∀ r ∈ depthFirst rs, P r := by
  induction rs using depthFirst.induct with
  | case1 => simp
  | case2 r rest ihNested ihRest =>
    have hr := hrs r List.mem_cons_self
    rw [depthFirst_cons, List.forall_mem_cons, List.forall_mem_append]
    exact ⟨hr, ihNested (hnested r hr), ihRest fun s hs => hrs s (List.mem_cons_of_mem _ hs)⟩

lemma nested_mem_depthFirst {rs : List InlineType} {r s : InlineType} (hr : r ∈ depthFirst rs)
    (hs : s ∈ r.nested) : s ∈ depthFirst rs := by
  induction rs using depthFirst.induct with
  | case1 => simp at hr
  | case2 q rest ihNested ihRest =>
    rw [depthFirst_cons, List.mem_cons, List.mem_append] at hr ⊢
    rcases hr with rfl | hr | hr
    · exact Or.inr (Or.inl (subset_depthFirst _ hs))
    · exact Or.inr (Or.inl (ihNested hr))
    · exact Or.inr (Or.inr (ihRest hr))

lemma within_of_mem_depthFirst {rs : List InlineType} {r : InlineType} (h : r ∈ depthFirst rs) :
    ∃ s ∈ rs, r.body.Within s.body := by
  refine forall_depthFirst (P := fun r => ∃ s ∈ rs, r.body.Within s.body)
    (fun r hr => ⟨r, hr, Located.Within.refl _⟩) (fun r hr q hq => ?_) r h
  obtain ⟨s, hs, hrs⟩ := hr
  exact ⟨s, hs, (ComplexType.below_of_mem_inlineTypes hq).within.trans hrs⟩

/-- Bodies that stand apart at the start are never met twice. -/
theorem nodup_depthFirst {rs : List InlineType} (h : rs.Pairwise Apart) :
    (depthFirst rs).Nodup := by
  suffices hpaths : ((depthFirst rs).map (·.body.path)).Nodup from hpaths.of_map
  induction rs using depthFirst.induct with
  | case1 => simp
  | case2 r rest ihNested ihRest =>
    obtain ⟨hr, hrest⟩ := List.pairwise_cons.mp h
    -- what is nested in `r` lies below it, and what follows lies apart from both
    have hbelow : ∀ s ∈ depthFirst r.nested, s.body.Below r.body := by
      intro s hs
      obtain ⟨q, hq, hsq⟩ := within_of_mem_depthFirst hs
      exact (ComplexType.below_of_mem_inlineTypes hq).trans_within hsq
    have hapart : ∀ s ∈ depthFirst rest, ∀ d : Located, d.Within r.body → d.Apart s.body := by
      intro s hs d hd
      obtain ⟨q, hq, hsq⟩ := within_of_mem_depthFirst hs
      exact (hr q hq).mono hd hsq
    rw [depthFirst_cons, List.map_cons, List.map_append, List.nodup_cons, List.nodup_append]
    refine ⟨fun hmem => ?_, ihNested (ComplexType.pairwise_inlineTypes _ _), ihRest hrest, ?_⟩
    · rcases List.mem_append.mp hmem with hmem | hmem
      · obtain ⟨s, hs, hp⟩ := List.mem_map.mp hmem
        exact (hbelow s hs).path_ne hp
      · obtain ⟨s, hs, hp⟩ := List.mem_map.mp hmem
        exact (hapart s hs _ (Located.Within.refl _)).path_ne hp.symm
    · intro p hp q hq
      obtain ⟨s, hs, rfl⟩ := List.mem_map.mp hp
      obtain ⟨t, ht, rfl⟩ := List.mem_map.mp hq
      exact (hapart t ht _ (hbelow s hs).within).path_ne

/-- Where no name comes up twice every request is granted. -/
theorem granted_eq_depthFirst {taken : List String} {rs : List InlineType}
    (h : (taken ++ (depthFirst rs).map (·.typeName)).Nodup) : granted taken rs = depthFirst rs := by
  induction taken, rs using granted.induct with
  | case1 taken => simp [granted]
  | case2 taken r rest hr ih =>
    rw [depthFirst_cons] at h
    exact absurd rfl ((List.nodup_append.mp h).2.2 _ hr _ List.mem_cons_self)
  | case3 taken r rest hr ih =>
    rw [granted_of_notMem hr, ih, depthFirst_cons, depthFirst_append]
    rwa [depthFirst_append, List.append_assoc, List.singleton_append, ← List.map_cons,
      ← depthFirst_cons]

lemma granted_subset_depthFirst (taken : List String) (rs : List InlineType) :
    granted taken rs ⊆ depthFirst rs := by
  induction taken, rs using granted.induct with
  | case1 taken => simp [granted]
  | case2 taken r rest hr ih =>
    rw [granted_of_mem hr, depthFirst_cons]
    exact List.Subset.trans ih (List.subset_cons_of_subset r (List.subset_append_right _ _))
  | case3 taken r rest hr ih =>
    rw [granted_of_notMem hr, depthFirst_cons, ← depthFirst_append]
    exact List.cons_subset_cons r ih

/-- The inline bodies of a types section, with the names and namespaces they ask for: those of the
members of its declared types, those of its declared elements, and those of the members of another
one. -/
inductive Reached (types : Option Located) : InlineType → Prop
  | ofType {schema type member body : Located} (hs : schema ∈ Catalog.schemasOf types)
      (ht : type ∈ schema.childrenNamed "complexType" none)
      (hm : member ∈ ComplexType.memberNodes type) (hb : Element.inlineBody? member = some body) :
      Reached types ⟨Element.inlineName member, body, targetNamespace schema⟩
  | ofElement {schema element body : Located} (hs : schema ∈ Catalog.schemasOf types)
      (he : element ∈ schema.childrenNamed "element" none)
      (hb : Element.inlineBody? element = some body) :
      Reached types ⟨Element.inlineName element, body, targetNamespace schema⟩
  | ofMember {r : InlineType} {member body : Located} (hr : Reached types r)
      (hm : member ∈ ComplexType.memberNodes r.body)
      (hb : Element.inlineBody? member = some body) :
      Reached types ⟨Element.inlineName member, body, r.space⟩

end InlineType

/-- The inline bodies of a types section depth first: schema by schema those under its declared
types before those under its declared elements. -/
def reachedTypes (types : Option Located) : List InlineType :=
  InlineType.depthFirst (pendingTypes types)

namespace InlineType
variable {types : Option Located} {r s : InlineType}

lemma Reached.of_pending (h : r ∈ pendingTypes types) : Reached types r := by
  obtain ⟨schema, hs, ⟨type, ht, hr⟩ | ⟨element, he, hr⟩⟩ := mem_pendingTypes_iff.mp h
  · obtain ⟨member, hm, body, hb, rfl⟩ := ComplexType.mem_inlineTypes_iff.mp hr
    exact .ofType hs ht hm hb
  · obtain ⟨body, hb, rfl⟩ := Element.mem_inlineTypes_iff.mp hr
    exact .ofElement hs he hb

lemma Reached.nested (hr : Reached types r) (hs : s ∈ r.nested) : Reached types s := by
  obtain ⟨member, hm, body, hb, rfl⟩ := ComplexType.mem_inlineTypes_iff.mp hs
  exact .ofMember hr hm hb

end InlineType

/-- The list has all inline bodies and no others. -/
theorem mem_reachedTypes_iff {types : Option Located} {r : InlineType} :
    r ∈ reachedTypes types ↔ r.Reached types := by
  constructor
  · exact InlineType.forall_depthFirst (fun _ => .of_pending) (fun _ hr _ => hr.nested) r
  · intro h
    induction h with
    | ofType hs ht hm hb =>
      refine InlineType.subset_depthFirst _ (mem_pendingTypes_iff.mpr ⟨_, hs, Or.inl ⟨_, ht, ?_⟩⟩)
      exact ComplexType.mem_inlineTypes_iff.mpr ⟨_, hm, _, hb, rfl⟩
    | ofElement hs he hb =>
      refine InlineType.subset_depthFirst _ (mem_pendingTypes_iff.mpr ⟨_, hs, Or.inr ⟨_, he, ?_⟩⟩)
      exact Element.mem_inlineTypes_iff.mpr ⟨_, hb, rfl⟩
    | ofMember hr hm hb ih =>
      exact InlineType.nested_mem_depthFirst ih
        (ComplexType.mem_inlineTypes_iff.mpr ⟨_, hm, _, hb, rfl⟩)

theorem nodup_reachedTypes (types : Option Located) : (reachedTypes types).Nodup :=
  InlineType.nodup_depthFirst (pairwise_pendingTypes types)

end ServiceDescription.Schema
