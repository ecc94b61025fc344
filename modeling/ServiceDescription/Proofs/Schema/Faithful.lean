import ServiceDescription.Proofs.Schema.Grafting

/-! Places of a copy where every prefix means what it means in the document. At the children of the
root they are; and what is in an element stays at such a place if the element declares no namespace
that has another prefix around it, and no prefix that shares its namespace at the schema. A place of
this kind has a prefix at hand for every attribute, so nothing is declared again there. -/
namespace ServiceDescription

namespace Xml.Scope

/-- The prefix shares its namespace with another one. -/
def Shared (scope : Scope) (pre : String) : Prop :=
  ∃ other uri, other ≠ pre ∧ scope.namespace? pre = some uri ∧ scope.namespace? other = some uri

lemma namespace?_of_mem {scope : Scope} (h : (scope.map (·.1)).Nodup) {d : String × String}
    (hd : d ∈ scope) : scope.namespace? d.1 = some d.2 := by
  induction scope with
  | nil => cases hd
  | cons e scope ih =>
    obtain ⟨he, hscope⟩ := List.nodup_cons.mp h
    rw [namespace?_cons]
    rcases List.mem_cons.mp hd with rfl | hd
    · rw [if_pos rfl]
    · have hne : d.1 ≠ e.1 := fun heq => he (List.mem_map.mpr ⟨d, hd, heq⟩)
      rw [if_neg hne, ih hscope hd]

end Xml.Scope

namespace Schema
open Xml

def scopeOf (levels : List Level) : Scope := levels.flatMap Level.declared

@[simp] lemma scopeOf_cons (level : Level) (outer : List Level) :
    scopeOf (level :: outer) = level.declared ++ scopeOf outer := List.flatMap_cons

/-- No level declares a prefix twice, and the names of elements go by declarations in scope. -/
def Sound : List Level → Prop
  | [] => True
  | level :: outer =>
    (∀ d ∈ level.declared, level.declared.namespace? d.1 = some d.2) ∧
    (∀ d ∈ level.own, (scopeOf (level :: outer)).namespace? d.1 = some d.2) ∧ Sound outer

lemma Sound.prefixAmong? {levels : List Level} (h : Sound levels) {uri pre : String}
    {hidden : List String} (hpre : prefixAmong? uri hidden levels = some pre) :
    pre ∉ hidden ∧ (scopeOf levels).namespace? pre = some uri := by
  induction levels generalizing hidden with
  | nil => cases hpre
  | cons level outer ih =>
    obtain ⟨hdeclared, hown, houter⟩ := h
    rw [Schema.prefixAmong?, Option.or_eq_some_iff] at hpre
    rcases hpre with hhere | ⟨-, hlater⟩
    · obtain ⟨d, hd, rfl⟩ := Option.map_eq_some_iff.mp hhere
      obtain ⟨rfl, hvisible⟩ : d.2 = uri ∧ d.1 ∉ hidden := by simpa using List.find?_some hd
      refine ⟨hvisible, ?_⟩
      rcases List.mem_append.mp (List.mem_of_find?_eq_some hd) with hd | hd
      · rw [scopeOf_cons, Scope.namespace?_append, hdeclared d hd, Option.some_or]
      · exact hown d hd
    · obtain ⟨hvisible, hscope⟩ := ih houter hlater
      rw [List.mem_append, not_or] at hvisible
      refine ⟨hvisible.1, ?_⟩
      rw [scopeOf_cons, Scope.namespace?_append, Scope.namespace?_eq_none hvisible.2,
        Option.none_or, hscope]

/-- A prefix that is found for a namespace has it. -/
theorem Sound.prefixOf? {levels : List Level} (h : Sound levels) {uri pre : String}
    (hpre : prefixOf? uri levels = some pre) : (scopeOf levels).namespace? pre = some uri := by
  cases levels with
  | nil => cases hpre
  | cons level outer =>
    obtain ⟨hdeclared, -, houter⟩ := h
    have hbare : Sound ({ level with own := [] } :: outer) :=
      ⟨hdeclared, List.forall_mem_nil _, houter⟩
    exact (hbare.prefixAmong? hpre).2

lemma lookup_successors (levels : List Level) (declarations : Scope) (pre : String) :
    (successors levels declarations).lookup pre =
      (declarations.namespace? pre).map fun uri => (uri, (prefixOf? uri levels).getD pre) := by
  induction declarations with
  | nil => rfl
  | cons d declarations ih =>
    rw [Scope.namespace?_cons, successors, List.map_cons, List.lookup_cons, ← successors, ih]
    by_cases h : pre = d.1
    · simp [h]
    · rw [beq_eq_false_iff_ne.mpr h, if_neg h]

/-- The elements around a place, and the root around these. -/
def GraftPoint.chain (p : GraftPoint) : List Level := p.around ++ [{ declared := p.root }]

lemma levels_of_nil {p : GraftPoint} {a : Additions} (ha : a.declared = []) :
    p.levels a = p.chain := by
  rw [GraftPoint.levels, GraftPoint.chain, ha]
  rcases List.eq_nil_or_concat p.around with hnone | ⟨inner, child, hchild⟩
  · simp [hnone]
  · simp [hchild]

/-- At a place of the copy all prefixes mean what they mean at one of the document. -/
structure GraftPoint.Faithful (p : GraftPoint) (schema outer : Scope) : Prop where
  root : p.root.Agree schema
  child : ∀ c ∈ p.around.getLast?, ∀ pre, schema.Shared pre → c.declared.namespace? pre = none
  agree : (scopeOf p.chain).Agree outer
  sound : Sound p.chain
  /-- The prefix that takes the place of another one has the same namespace; it is another one only
  if both share the namespace at the schema. -/
  successor : ∀ pre uri now, p.successors.lookup pre = some (uri, now) →
    outer.namespace? pre = some uri ∧ outer.namespace? now = some uri ∧
      (now = pre ∨ schema.namespace? pre = some uri ∧ schema.namespace? now = some uri)

/-- What an element declares keeps to the prefixes around it: no namespace that has another prefix,
and no prefix that shares its namespace at the schema. -/
structure Unambiguous (schema outer declarations : Scope) : Prop where
  around : ∀ pre other uri, declarations.namespace? pre = some uri →
    outer.namespace? other = some uri → other = pre
  alone : ∀ pre, schema.Shared pre → declarations.namespace? pre = none

namespace GraftPoint.Faithful
variable {p : GraftPoint} {a : Additions} {schema outer : Scope}

/-- The children of the root are at such a place. -/
lemma ofRoot (schema : Scope) : (GraftPoint.ofRoot schema.visible).Faithful schema schema := by
  have hagree := Scope.agree_visible schema
  have hsound : Sound (GraftPoint.ofRoot schema.visible).chain :=
    ⟨fun d hd => (hagree d.1).trans (Scope.mem_visible_iff.mp hd), List.forall_mem_nil _, trivial⟩
  have hscope : scopeOf (GraftPoint.ofRoot schema.visible).chain = schema.visible :=
    List.append_nil _
  have hchain : (scopeOf (GraftPoint.ofRoot schema.visible).chain).Agree schema := by
    rw [hscope]
    exact hagree
  refine ⟨hagree, fun _ hc => ?_, hchain, hsound, fun pre uri now h => ?_⟩
  · cases hc
  · rw [GraftPoint.ofRoot, lookup_successors, hagree, Option.map_eq_some_iff] at h
    obtain ⟨uri', hpre, hpair⟩ := h
    obtain ⟨rfl, rfl⟩ := Prod.mk.inj hpair
    have hnow : schema.namespace? ((prefixOf? uri' [{ declared := schema.visible }]).getD pre) =
        some uri' := by
      cases hfound : prefixOf? uri' [{ declared := schema.visible }] with
      | none => exact hpre
      | some other => exact (hchain other).symm.trans (hsound.prefixOf? hfound)
    exact ⟨hpre, hnow, .inr ⟨hpre, hnow⟩⟩

section Enter
variable {tag : Tag}

/-- What an element keeps of its declarations and what is declared around it bind in the copy as the
element and what is around it do in the document. -/
lemma agree_enter (h : p.Faithful schema outer) (ha : a.declared = [])
    (honce : (tag.declarations.map (·.1)).Nodup)
    (hplain : Unambiguous schema outer tag.declarations) :
    (scopeOf (p.enter a tag).chain).Agree (tag.declarations ++ outer) := by
  intro pre
  have hchain : scopeOf (p.enter a tag).chain = p.kept a tag ++ scopeOf p.chain := rfl
  rw [hchain, Scope.namespace?_append, Scope.namespace?_append, GraftPoint.kept,
    Scope.namespace?_filter honce fun uri => !p.knows a uri, h.agree pre]
  cases hdeclared : tag.declarations.namespace? pre with
  | none => rfl
  | some uri =>
    rw [Option.filter_some, GraftPoint.knows, levels_of_nil ha]
    cases hfound : prefixOf? uri p.chain with
    | none => rfl
    | some other =>
      have hother := (h.agree other).symm.trans (h.sound.prefixOf? hfound)
      obtain rfl := hplain.around pre other uri hdeclared hother
      rw [hother]
      rfl

lemma successor_enter (h : p.Faithful schema outer) (ha : a.declared = [])
    (hplain : Unambiguous schema outer tag.declarations) {pre uri now : String}
    (hpre : (p.enter a tag).successors.lookup pre = some (uri, now)) :
    Scope.namespace? (tag.declarations ++ outer) pre = some uri ∧
      Scope.namespace? (tag.declarations ++ outer) now = some uri ∧
      (now = pre ∨ schema.namespace? pre = some uri ∧ schema.namespace? now = some uri) := by
  rw [GraftPoint.enter, List.lookup_append, lookup_successors, levels_of_nil ha] at hpre
  simp only [Scope.namespace?_append]
  cases hdeclared : tag.declarations.namespace? pre with
  | some uri' =>
    rw [hdeclared] at hpre
    obtain ⟨rfl, rfl⟩ := Prod.mk.inj (Option.some.inj hpre)
    have hnow : (prefixOf? uri' p.chain).getD pre = pre := by
      cases hfound : prefixOf? uri' p.chain with
      | none => rfl
      | some other =>
        have hother := (h.agree other).symm.trans (h.sound.prefixOf? hfound)
        exact hplain.around pre other uri' hdeclared hother
    rw [hnow, hdeclared]
    exact ⟨rfl, rfl, .inl rfl⟩
  | none =>
    rw [hdeclared] at hpre
    obtain ⟨hbound, hbound', hnow⟩ := h.successor pre uri now hpre
    refine ⟨hbound, ?_, hnow⟩
    rcases hnow with rfl | ⟨hschema, hschema'⟩
    · rw [hdeclared, hbound', Option.none_or]
    · by_cases hsame : now = pre
      · rw [hsame, hdeclared, hbound, Option.none_or]
      · -- a prefix that shares its namespace is not declared again
        rw [hplain.alone now ⟨pre, uri, Ne.symm hsame, hschema', hschema⟩, hbound',
          Option.none_or]

theorem enter (h : p.Faithful schema outer) (ha : a.declared = [])
    (honce : (tag.declarations.map (·.1)).Nodup)
    (hplain : Unambiguous schema outer tag.declarations) :
    (p.enter a tag).Faithful schema (tag.declarations ++ outer) where
  root := h.root
  child := by
    intro c hc pre hshared
    cases hlast : p.around.getLast? with
    | none =>
      have hnil : p.around = [] := List.getLast?_eq_none_iff.mp hlast
      rw [p.getLast?_enter_of_nil a tag hnil] at hc
      obtain rfl := Option.some.inj hc
      rw [GraftPoint.kept, Scope.namespace?_filter honce fun uri => !p.knows a uri,
        hplain.alone pre hshared, Option.filter_none]
    | some c' =>
      rw [getLast?_enter hlast] at hc
      obtain rfl := Option.some.inj hc
      exact h.child c' hlast pre hshared
  agree := h.agree_enter ha honce hplain
  sound := by
    refine ⟨fun d hd => ?_, fun d hd => ?_, h.sound⟩
    · exact Scope.namespace?_of_mem (honce.sublist (List.filter_sublist.map _)) hd
    · obtain ⟨s, hs, rfl⟩ := List.mem_map.mp hd
      have hlookup := Option.mem_toList.mp (List.mem_filter.mp hs).1
      exact (h.agree_enter ha honce hplain _).trans (h.successor_enter ha hplain hlookup).2.1
  successor _ _ _ := h.successor_enter ha hplain

end Enter

/-- A prefix that shares its namespace at the schema has it at the child of the root, too. -/
lemma childScope_of_shared (h : p.Faithful schema outer) (ha : a.declared = []) {pre uri : String}
    (hshared : schema.Shared pre) (hschema : schema.namespace? pre = some uri) :
    (p.childScope a).namespace? pre = some uri := by
  rw [childScope, ha, List.append_nil, Scope.namespace?_append, h.root, hschema]
  cases hlast : p.around.getLast? with
  | none => rfl
  | some c =>
    rw [Option.elim_some, h.child c hlast pre hshared, Option.none_or]

/-- Every attribute has a prefix at hand. -/
lemma prefixed_snd (h : p.Faithful schema outer) (ha : a.declared = []) (b : Attribute) :
    (p.prefixed a b).2 = a := by
  rw [prefixed]
  split
  · rfl
  · next uri hlookup =>
    split at hlookup
    · cases hlookup
    · next hpre =>
      split
      · rfl
      · next hnone =>
        obtain ⟨-, -, hnow | ⟨hschema, hdefault⟩⟩ := h.successor _ _ _ hlookup
        · exact absurd hnow.symm hpre
        · have hshared : schema.Shared b.pre := ⟨"", uri, Ne.symm hpre, hschema, hdefault⟩
          have hmem := Scope.mem_visible_iff.mpr (h.childScope_of_shared ha hshared hschema)
          exact absurd (List.find?_eq_none.mp hnone _ hmem) (by simpa using hpre)
  · rfl

lemma prefixedAll_snd (h : p.Faithful schema outer) (ha : a.declared = []) (bs : List Attribute) :
    (p.prefixedAll a bs).2 = a := by
  induction bs with
  | nil => rfl
  | cons b bs ih => rw [prefixedAll, h.prefixed_snd ha b, ih]

end GraftPoint.Faithful

lemma declared_next (p : GraftPoint) {a : Additions} (ha : a.declared = []) :
    (p.next a).declared = [] := by
  rw [GraftPoint.next]
  split
  · rfl
  · exact ha

/-- An element that declares no prefix twice, and keeps to the prefixes around it. -/
def Plain (schema : Scope) (l : Located) : Prop :=
  (l.declarations.map (·.1)).Nodup ∧ Unambiguous schema l.outer l.declarations

mutual

/-- Nothing is declared again for a tree of such elements. -/
theorem declared_grafted {p : GraftPoint} {schema outer : Scope} {a : Additions}
    (h : p.Faithful schema outer) (ha : a.declared = []) (path : List ℕ) (n : Node)
    (hplain : ∀ d ∈ ⟨path, outer, n⟩ :: Located.below path outer n, Plain schema d) :
    (grafted p a n.detached).2.declared = [] := by
  cases n with
  | element tag content =>
    obtain ⟨⟨honce, hhere⟩, hbelow⟩ := List.forall_mem_cons.mp hplain
    have hinside : (p.enter a (Node.detachedTag tag)).Faithful schema (tag.declarations ++ outer) :=
      h.enter ha honce hhere
    rw [Node.detached_element, grafted, hinside.prefixedAll_snd ha]
    exact declared_graftedAll hinside ha path 0 content hbelow
  | _ => exact ha

theorem declared_graftedAll {p : GraftPoint} {schema scope : Scope} {a : Additions}
    (h : p.Faithful schema scope) (ha : a.declared = []) (path : List ℕ) (i : ℕ) (ns : List Node)
    (hplain : ∀ d ∈ Located.belowAll path scope i ns, Plain schema d) :
    (graftedAll p a (Node.detachedAll ns)).2.declared = [] := by
  cases ns with
  | nil => exact ha
  | cons n rest =>
    rw [Located.belowAll] at hplain
    rw [Node.detachedAll_cons, graftedAll]
    split at hplain
    · next htext =>
      have htext' : grafted p (p.next a) n.detached = (n.detached, p.next a) := by
        cases n with
        | element tag content => cases htext
        | _ => rfl
      rw [htext']
      exact declared_graftedAll h (declared_next p ha) path i rest hplain
    · obtain ⟨hhere, hbelow⟩ := List.forall_mem_cons.mp hplain
      obtain ⟨hn, hrest⟩ := List.forall_mem_append.mp hbelow
      have hfirst := declared_grafted h (declared_next p ha) (path ++ [i]) n
        (List.forall_mem_cons.mpr ⟨hhere, hn⟩)
      exact declared_graftedAll h hfirst path (i + 1) rest hrest

end

lemma declared_arrivalAmong {p : GraftPoint} {schema scope : Scope} {a : Additions} {i k : ℕ}
    {v : Arrival} {path : List ℕ} {ns : List Node} (h : p.Faithful schema scope)
    (ha : a.declared = []) (hplain : ∀ d ∈ Located.belowAll path scope k ns, Plain schema d)
    (hv : arrivalAmong? p a i (Node.detachedAll ns) = some v) : v.added.declared = [] := by
  obtain ⟨ahead, n, behind, hns, rfl⟩ := exists_of_arrivalAmong? hv
  rw [Node.detachedAll_eq_map] at hns
  obtain ⟨ahead', rest, rfl, rfl, -⟩ := List.map_eq_append_iff.mp hns
  rw [← Node.detachedAll_eq_map]
  refine declared_next p (declared_graftedAll h ha path k ahead' fun d hd => hplain d ?_)
  rw [Located.belowAll_eq_flatMap] at hd ⊢
  rw [Located.place_append, List.flatMap_append]
  exact List.mem_append_left _ hd

section Arrivals
variable {l n : Located} {v : Arrival} {path : List ℕ} {i : ℕ}

/-- No element declares a prefix twice, as none does in a document. -/
def DeclaresOnce (l : Located) : Prop := ∀ a ∈ l.descendants, (a.declarations.map (·.1)).Nodup

/-- No element of the child of the schema that a path leads into, and not the child itself, declares
a namespace that has another prefix around it, or a prefix that shares its namespace at the
schema. -/
def Unaliased (l : Located) (path : List ℕ) : Prop :=
  ∀ c ∈ l.descend (path.take 1), ∀ a ∈ c :: c.descendants,
    Unambiguous l.scope a.outer a.declarations

lemma plain_of_unaliased (honce : DeclaresOnce l) (h : Unaliased l (path ++ [i]))
    (hn : l.descend (path ++ [i]) = some n) : ∀ d ∈ n :: n.descendants, Plain l.scope d := by
  intro d hd
  obtain ⟨c, hc, hcl, hnc⟩ := Located.exists_first hn (by simp)
  have hdc : d ∈ c :: c.descendants := Located.cons_descendants_subset hnc hd
  have hdl : d ∈ l.descendants := by
    rw [Located.descendants_eq_flatMap]
    exact List.mem_flatMap.mpr ⟨c, hcl, hdc⟩
  exact ⟨honce d hdl, h c hc d hdc⟩

/-- Where all elements keep to the prefixes around them, every node comes to a place where prefixes
mean what they mean in the document. -/
theorem faithful_of_arrival? (honce : DeclaresOnce l) (h : Unaliased l (path ++ [i]))
    (hn : l.descend (path ++ [i]) = some n) (hv : arrival? l (path ++ [i]) = some v) :
    v.place.Faithful l.scope n.outer ∧ v.added.declared = [] := by
  induction path using List.reverseRecOn generalizing n v i with
  | nil =>
    obtain ⟨m, hm, -, houter⟩ := Located.exists_parent hn
    obtain rfl := Option.some.inj hm
    obtain ⟨-, hplace, hadded⟩ | ⟨hne, -⟩ := place_of_arrival? hv
    · rw [hplace, houter]
      exact ⟨.ofRoot l.scope, hadded⟩
    · exact absurd rfl hne
  | append_singleton path j ih =>
    obtain ⟨m, hm, hchild, houter⟩ := Located.exists_parent hn
    obtain ⟨u, m', hu, -, hm'⟩ := exists_counterpart hm
    have htake : (path ++ [j] ++ [i]).take 1 = (path ++ [j]).take 1 :=
      List.take_append_of_le_length (by simp)
    rw [Unaliased, htake] at h
    obtain ⟨hplace, hadded⟩ := ih h hm hu
    have hplain := plain_of_unaliased honce h hm
    rw [arrival?_concat hu, Arrival.child?, hm'.node_eq] at hv
    obtain ⟨mpath, outer, node⟩ := m
    cases node with
    | element tag content =>
      obtain ⟨⟨htag, hhere⟩, hbelow⟩ := List.forall_mem_cons.mp hplain
      have hinside : (u.place.enter u.added (Node.detachedTag tag)).Faithful l.scope
          (tag.declarations ++ outer) :=
        hplace.enter hadded htag hhere
      rw [Node.detached_element] at hv
      dsimp only at hv
      rw [hinside.prefixedAll_snd hadded] at hv
      rw [houter]
      refine ⟨?_, declared_arrivalAmong hinside hadded hbelow hv⟩
      obtain ⟨ahead, x, behind, -, rfl⟩ := exists_of_arrivalAmong? hv
      exact hinside
    | _ => cases hv

end Arrivals

end Schema
end ServiceDescription
