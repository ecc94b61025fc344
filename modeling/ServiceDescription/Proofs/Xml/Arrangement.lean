import ServiceDescription.Proofs.Xml.Alike
import ServiceDescription.Proofs.Xml.Position

/-! Scopes that bind alike. A node says the same wherever every prefix is bound to what it was bound
to, at whatever position it stands; so elements with the same children of a kind lead to the same by
this kind, however other children stand among these. -/
namespace ServiceDescription.Xml

namespace Scope

/-- Every prefix is bound to the same namespace, or to none. -/
def Agree (scope scope' : Scope) : Prop := ∀ pre, scope.namespace? pre = scope'.namespace? pre

lemma Agree.refl (scope : Scope) : Agree scope scope := fun _ => rfl

lemma namespace?_cons (d : String × String) (scope : Scope) (pre : String) :
    Scope.namespace? (d :: scope) pre = if pre = d.1 then some d.2 else scope.namespace? pre := by
  rw [namespace?, List.lookup_cons]
  split <;> simp_all [namespace?]

lemma Agree.append {scope scope' : Scope} (h : Agree scope scope') (declarations : Scope) :
    Agree (declarations ++ scope) (declarations ++ scope') := by
  intro pre
  induction declarations with
  | nil => exact h pre
  | cons d declarations ih =>
    rw [List.cons_append, List.cons_append, namespace?_cons, namespace?_cons, ih]

lemma namespace?_filter_ne (scope : Scope) {pre other : String} (h : pre ≠ other) :
    Scope.namespace? (scope.filter (·.1 ≠ other)) pre = scope.namespace? pre := by
  induction scope with
  | nil => rfl
  | cons d scope ih =>
    by_cases hd : d.1 = other
    · rw [List.filter_cons_of_neg (by simpa using hd), namespace?_cons,
        if_neg (fun he => h (he.trans hd)), ih]
    · rw [List.filter_cons_of_pos (by simpa using hd), namespace?_cons, namespace?_cons, ih]

lemma namespace?_append (ahead behind : Scope) (pre : String) :
    Scope.namespace? (ahead ++ behind) pre = (ahead.namespace? pre).or (behind.namespace? pre) :=
  List.lookup_append

lemma mem_of_namespace? {scope : Scope} {pre uri : String} (h : scope.namespace? pre = some uri) :
    (pre, uri) ∈ scope := by
  obtain ⟨ahead, behind, rfl, -⟩ := List.lookup_eq_some_iff.mp h
  exact List.mem_append_right _ List.mem_cons_self

lemma namespace?_eq_none {scope : Scope} {pre : String} (h : pre ∉ scope.map (·.1)) :
    scope.namespace? pre = none := by
  induction scope with
  | nil => rfl
  | cons d scope ih =>
    rw [List.map_cons, List.mem_cons, not_or] at h
    rw [namespace?_cons, if_neg h.1, ih h.2]

/-- Where no prefix is declared twice, leaving out declarations by their namespaces leaves each
prefix the namespace that it has, or none. -/
lemma namespace?_filter {scope : Scope} (h : (scope.map (·.1)).Nodup) (keep : String → Bool)
    (pre : String) :
    Scope.namespace? (scope.filter fun d => keep d.2) pre = (scope.namespace? pre).filter keep := by
  induction scope with
  | nil => rfl
  | cons d scope ih =>
    obtain ⟨hd, hscope⟩ := List.nodup_cons.mp h
    by_cases hpre : pre = d.1
    · have hnone : Scope.namespace? (scope.filter fun d => keep d.2) pre = none := by
        rw [ih hscope, namespace?_eq_none (hpre ▸ hd), Option.filter_none]
      rw [List.filter_cons, namespace?_cons, if_pos hpre, Option.filter_some]
      split
      · rw [namespace?_cons, if_pos hpre]
      · exact hnone
    · rw [List.filter_cons, namespace?_cons, if_neg hpre, ← ih hscope]
      split
      · rw [namespace?_cons, if_neg hpre]
      · rfl

/-- The bindings that count bind as all of them do. -/
lemma agree_visible (scope : Scope) : Agree scope.visible scope := by
  intro pre
  induction scope with
  | nil => rfl
  | cons d outer ih =>
    obtain ⟨other, uri⟩ := d
    rw [visible, namespace?_cons, namespace?_cons]
    split
    · rfl
    · next h => rw [namespace?_filter_ne _ h, ih]

end Scope

lemma QualifiedName.same_of_agree {scope scope' : Scope} (h : scope.Agree scope') (raw : String) :
    Same scope scope' raw raw := by
  intro fallback
  simp only [resolve, namespaceOf, h _]

lemma Tag.alike_of_agree {scope scope' : Scope} (h : scope.Agree scope') (tag : Tag) :
    tag.Alike scope scope' tag where
  name := rfl
  value? _ _ := rfl
  reference a _ := by
    cases tag.value? a with
    | none => exact .none
    | some raw => exact .some (QualifiedName.same_of_agree h raw)

namespace Node

mutual

lemma match_of_agree {outer outer' : Scope} (h : outer.Agree outer') (n : Node) :
    Match Tag.Alike outer outer' n n := by
  cases n with
  | element tag content =>
    have hscope := h.append tag.declarations
    exact .element (Tag.alike_of_agree hscope tag) (matchAll_of_agree hscope content)
  | text value => exact .text value
  | comment value => exact .comment value value
  | instruction target data => exact .instruction target data target data
  | reference entity => exact .reference entity

lemma matchAll_of_agree {scope scope' : Scope} (h : scope.Agree scope') (ns : List Node) :
    MatchAll Tag.Alike scope scope' ns ns := by
  cases ns with
  | nil => exact .nil
  | cons n rest => exact .cons (match_of_agree h n) (matchAll_of_agree h rest)

end
end Node

namespace Located

lemma Alike.refl (l : Located) : l.Alike l := Node.match_of_agree (.refl l.outer) l.node

/-- The nodes of some lists are alike when they are the same and stand in scopes that agree. -/
lemma forall₂_alike_of_nodes {scope scope' : Scope} (hscope : scope.Agree scope')
    {ls ls' : List Located} (houter : ∀ l ∈ ls, l.outer = scope)
    (houter' : ∀ l ∈ ls', l.outer = scope') (h : ls.map (·.node) = ls'.map (·.node)) :
    List.Forall₂ Alike ls ls' := by
  induction ls generalizing ls' with
  | nil =>
    obtain rfl := List.map_eq_nil_iff.mp h.symm
    exact .nil
  | cons l ls ih =>
    cases ls' with
    | nil => cases h
    | cons l' ls' =>
      obtain ⟨hnode, hnodes⟩ : l.node = l'.node ∧ ls.map (·.node) = ls'.map (·.node) :=
        List.cons.inj h
      obtain ⟨hl, hls⟩ := List.forall_mem_cons.mp houter
      obtain ⟨hl', hls'⟩ := List.forall_mem_cons.mp houter'
      refine .cons ?_ (ih hls hls' hnodes)
      rw [Alike, hl, hl', ← hnode]
      exact Node.match_of_agree hscope l.node

/-- Two elements with the same attributes, in scopes that bind alike, and with the same children of
each of some kinds, in the same order among themselves. -/
structure SameByKind (kinds : List String) (l l' : Located) : Prop where
  attrNamed?_eq : ∀ name, l.attrNamed? name = l'.attrNamed? name
  scope_agree : l.scope.Agree l'.scope
  nodes_eq : ∀ kind ∈ kinds,
    (l.childrenNamed kind none).map (·.node) = (l'.childrenNamed kind none).map (·.node)

namespace SameByKind
variable {kinds : List String} {l l' : Located}

lemma attr_eq (h : SameByKind kinds l l') (name : String) : l.attr name = l'.attr name := by
  rw [attr, attr, attr?, attr?, h.attrNamed?_eq]

lemma childrenNamed (h : SameByKind kinds l l') {kind : String} (hkind : kind ∈ kinds) :
    List.Forall₂ Alike (l.childrenNamed kind none) (l'.childrenNamed kind none) :=
  forall₂_alike_of_nodes h.scope_agree
    (fun _ hc => outer_of_mem_place (mem_children_of_named hc))
    (fun _ hc => outer_of_mem_place (mem_children_of_named hc)) (h.nodes_eq kind hkind)

end SameByKind
end Located
end ServiceDescription.Xml
