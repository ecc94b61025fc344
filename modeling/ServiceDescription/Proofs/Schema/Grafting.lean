import Mathlib.Data.List.Induction
import ServiceDescription.Proofs.Overload.Suffix
import ServiceDescription.Proofs.Xml.Resolution
import ServiceDescription.Schema.Standalone
import ServiceDescription.Vocabulary

/-! What is put into a copy, node by node. Nodes are put there in document order, and what has been
declared again for one of them is there for those that come after it; so a node is followed from the
document to the copy together with its place and with what has been declared again before it. What
is declared again on a child of the root takes no prefix that is bound there, and it is declared for
a namespace that has no other prefix there than the default one. -/
namespace ServiceDescription

namespace Xml.Node

@[simp] lemma detached_element (tag : Tag) (content : List Node) :
    (element tag content).detached = element (detachedTag tag) (detachedAll content) := rfl

@[simp] lemma detachedAll_cons (n : Node) (rest : List Node) :
    detachedAll (n :: rest) = n.detached :: detachedAll rest := rfl

lemma detachedAll_eq_map (ns : List Node) : detachedAll ns = ns.map detached := by
  induction ns with
  | nil => rfl
  | cons n rest ih => rw [detachedAll_cons, ih, List.map_cons]

@[simp] lemma isText_detached (n : Node) : n.detached.isText = n.isText := by cases n <;> rfl

end Xml.Node

namespace Schema
open Xml

namespace GraftPoint
variable {p : GraftPoint} {a : Additions} {c : Level} {tag : Tag}

@[simp] lemma root_enter (p : GraftPoint) (a : Additions) (tag : Tag) :
    (p.enter a tag).root = p.root := rfl

lemma getLast?_enter (hc : p.around.getLast? = some c) :
    (p.enter a tag).around.getLast? = some c := by
  obtain ⟨level, levels, hlevels⟩ := List.ne_nil_iff_exists_cons.mp
    (List.ne_nil_of_mem (List.mem_of_getLast? hc))
  rw [enter, hlevels, List.getLast?_cons_cons, ← hlevels, hc]

lemma getLast?_enter_of_nil (p : GraftPoint) (a : Additions) (tag : Tag) (hnone : p.around = []) :
    (p.enter a tag).around.getLast? =
      some ⟨p.kept a tag, (p.enter a tag).own tag.pre⟩ := by
  rw [enter, hnone]
  rfl

lemma next_of_getLast? (hc : p.around.getLast? = some c) : p.next a = a := by
  have hne : p.around ≠ [] := List.ne_nil_of_mem (List.mem_of_getLast? hc)
  rw [next, if_neg (by simpa using hne)]

lemma madeUp_injective : madeUp.Injective := by
  intro j k h
  have hdigits := congrArg String.toList h
  rw [madeUp, madeUp, String.toList_append, String.toList_append] at hdigits
  refine Overload.decimalChars_injective ?_
  simpa [Text.decimal] using List.append_cancel_left hdigits

/-- A prefix to be declared is not in use. -/
theorem unused_notMem (p : GraftPoint) (a : Additions) (pre : String) :
    (p.unused a pre).1 ∉ (p.childScope a).map (·.1) := by
  dsimp only [unused]
  generalize (p.childScope a).map (·.1) = used
  split
  · obtain ⟨k, hlo, hhi, hk⟩ := Overload.exists_unused madeUp_injective used a.made
    cases hfound : (List.range' a.made (used.length + 1)).find? fun k =>
        !used.contains (madeUp k) with
    | none =>
      have htaken := List.find?_eq_none.mp hfound k (List.mem_range'_1.mpr ⟨hlo, hhi⟩)
      exact absurd hk (by simpa using htaken)
    | some j => simpa using List.find?_some hfound
  · next h => simpa using h

/-- What the child of the root and the root itself declare, apart from what is declared again. -/
def bound (p : GraftPoint) : Scope := p.around.getLast?.elim [] Level.declared ++ p.root

/-- What is declared again takes no prefix that is bound otherwise, and it is a namespace that has
no prefix otherwise, unless it is the default namespace. -/
def Fresh (p : GraftPoint) (a : Additions) : Prop :=
  ∀ d ∈ a.declared, d.1 ∉ p.bound.map (·.1) ∧ ∀ pre ≠ "", p.bound.namespace? pre ≠ some d.2

lemma Fresh.childScope (h : p.Fresh a) {pre uri : String}
    (hpre : p.bound.namespace? pre = some uri) : (p.childScope a).namespace? pre = some uri := by
  have hadded : a.declared.namespace? pre = none := by
    refine Scope.namespace?_eq_none fun hmem => ?_
    obtain ⟨d, hd, rfl⟩ := List.mem_map.mp hmem
    exact (h d hd).1 (List.mem_map_of_mem (f := (·.1)) (Scope.mem_of_namespace? hpre))
  rw [bound, Scope.namespace?_append] at hpre
  rw [GraftPoint.childScope, Scope.namespace?_append, Scope.namespace?_append, hadded,
    Option.or_none, hpre]

lemma Fresh.prefixed (h : p.Fresh a) (b : Attribute) : p.Fresh (p.prefixed a b).2 := by
  rw [GraftPoint.prefixed]
  split
  · exact h
  · split
    · exact h
    · next hnone =>
      intro d hd
      rcases List.mem_append.mp hd with hd | hd
      · exact h d hd
      · obtain rfl := List.mem_singleton.mp hd
        refine ⟨fun hmem => p.unused_notMem a b.pre ?_, fun pre hpre hbound => ?_⟩
        · obtain ⟨e, he, heq⟩ := List.mem_map.mp hmem
          refine List.mem_map.mpr ⟨e, ?_, heq⟩
          rw [bound, List.mem_append] at he
          simp only [GraftPoint.childScope, List.mem_append]
          tauto
        · have hvisible := Scope.mem_visible_iff.mpr (h.childScope hbound)
          exact List.find?_eq_none.mp hnone _ hvisible (by simpa using hpre)
  · exact h

lemma Fresh.prefixedAll (h : p.Fresh a) (bs : List Attribute) :
    p.Fresh (p.prefixedAll a bs).2 := by
  induction bs generalizing a with
  | nil => exact h
  | cons b bs ih => exact ih (h.prefixed b)

lemma fresh_enter_iff (hc : p.around.getLast? = some c) {a' : Additions} :
    (p.enter a' tag).Fresh a ↔ p.Fresh a := by
  rw [Fresh, Fresh, bound, bound, getLast?_enter hc, hc, root_enter]

mutual

theorem Fresh.grafted {p : GraftPoint} {a : Additions} {c : Level} (h : p.Fresh a)
    (hc : p.around.getLast? = some c) (n : Node) : p.Fresh (grafted p a n).2 := by
  cases n with
  | element tag content =>
    have hinside : (p.enter a tag).Fresh a := (fresh_enter_iff hc).mpr h
    rw [Schema.grafted]
    exact (fresh_enter_iff hc).mp
      ((hinside.prefixedAll tag.attributes).graftedAll (getLast?_enter hc) content)
  | _ => exact h

theorem Fresh.graftedAll {p : GraftPoint} {a : Additions} {c : Level} (h : p.Fresh a)
    (hc : p.around.getLast? = some c) (ns : List Node) : p.Fresh (graftedAll p a ns).2 := by
  cases ns with
  | nil => exact h
  | cons n rest =>
    rw [Schema.graftedAll, next_of_getLast? hc]
    exact (h.grafted hc n).graftedAll hc rest

end

end GraftPoint

/-- A node that is about to be put into a copy, and what has been declared again before it. -/
structure Arrival where
  place : GraftPoint
  added : Additions
  node : Node

/-- The node at some position among nodes that are put into a copy. Text takes no position. -/
def arrivalAmong? (p : GraftPoint) (a : Additions) : ℕ → List Node → Option Arrival
  | _, [] => none
  | i, n :: rest =>
    let later := (grafted p (p.next a) n).2
    if n.isText then arrivalAmong? p later i rest
    else if i = 0 then some ⟨p, p.next a, n⟩
    else arrivalAmong? p later (i - 1) rest

namespace Arrival

/-- The node at some position in a node that is put into a copy. -/
def child? (v : Arrival) (i : ℕ) : Option Arrival :=
  match v.node with
  | .element tag content =>
    let inside := v.place.enter v.added tag
    arrivalAmong? inside (inside.prefixedAll v.added tag.attributes).2 i content
  | _ => none

/-- What is made of the node, and what has been declared again after it. -/
def result (v : Arrival) : Node × Additions := grafted v.place v.added v.node

def knows (v : Arrival) (uri : String) : Bool := v.place.knows v.added uri

/-- What is declared on the node in addition to its own declarations. -/
def redeclared (v : Arrival) : Scope := v.place.redeclared v.result.2

end Arrival

/-- The node below a schema that child positions lead to, when it is put into the copy. -/
def arrival? (l : Located) : List ℕ → Option Arrival
  | [] => none
  | i :: path =>
    (arrivalAmong? (.ofRoot l.scope.visible) {} i (Node.detachedAll l.content)).bind
      (path.foldlM Arrival.child?)

/-- A node of the document, its arrival in the copy and what it becomes there. -/
structure Counterpart (n : Located) (v : Arrival) (n' : Located) : Prop where
  node_eq : v.node = n.node.detached
  copied : n'.node = v.result.1

section Arrivals
variable {l n m' : Located} {v : Arrival} {path : List ℕ} {i : ℕ}

lemma arrival?_concat (h : arrival? l path = some v) : arrival? l (path ++ [i]) = v.child? i := by
  cases path with
  | nil => cases h
  | cons j path =>
    obtain ⟨u, hu, hv⟩ := Option.bind_eq_some_iff.mp h
    rw [List.cons_append, arrival?, hu, Option.bind_some, List.foldlM_append, hv]
    simp

/-- The last step on the way of a node into the copy. -/
lemma cases_arrival?_concat (h : arrival? l (path ++ [i]) = some v) :
    (path = [] ∧
      arrivalAmong? (.ofRoot l.scope.visible) {} i (Node.detachedAll l.content) = some v) ∨
    ∃ u, arrival? l path = some u ∧ u.child? i = some v := by
  cases path with
  | nil =>
    obtain ⟨u, hu, hv⟩ := Option.bind_eq_some_iff.mp h
    obtain rfl := Option.some.inj hv
    exact .inl ⟨rfl, hu⟩
  | cons j path =>
    rw [List.cons_append] at h
    obtain ⟨u, hu, hv⟩ := Option.bind_eq_some_iff.mp h
    rw [List.foldlM_append] at hv
    obtain ⟨w, hw, hv⟩ := Option.bind_eq_some_iff.mp hv
    refine .inr ⟨w, ?_, by simpa using hv⟩
    rw [arrival?, hu, Option.bind_some, hw]

/-- A node that comes after some others finds what they left. -/
lemma exists_of_arrivalAmong? {p : GraftPoint} {a : Additions} {ns : List Node}
    (h : arrivalAmong? p a i ns = some v) :
    ∃ ahead n behind, ns = ahead ++ n :: behind ∧
      v = ⟨p, p.next (graftedAll p a ahead).2, n⟩ := by
  induction ns generalizing a i with
  | nil => cases h
  | cons n rest ih =>
    have hlater : ∀ {j}, arrivalAmong? p (grafted p (p.next a) n).2 j rest = some v →
        ∃ ahead m behind, n :: rest = ahead ++ m :: behind ∧
          v = ⟨p, p.next (graftedAll p a ahead).2, m⟩ := by
      intro j hj
      obtain ⟨ahead, m, behind, rfl, hv⟩ := ih hj
      exact ⟨n :: ahead, m, behind, rfl, hv⟩
    rw [arrivalAmong?] at h
    split at h
    · exact hlater h
    · split at h
      · exact ⟨[], n, rest, rfl, (Option.some.inj h).symm⟩
      · exact hlater h

/-- Only a child of the root comes with nothing around it, and it comes with nothing declared
again. -/
lemma place_of_arrival? (h : arrival? l (path ++ [i]) = some v) :
    (path = [] ∧ v.place = .ofRoot l.scope.visible ∧ v.added.declared = []) ∨
    (path ≠ [] ∧ v.place.around ≠ []) := by
  obtain ⟨rfl, hv⟩ | ⟨u, hu, hv⟩ := cases_arrival?_concat h
  · obtain ⟨ahead, n, behind, -, rfl⟩ := exists_of_arrivalAmong? hv
    exact .inl ⟨rfl, rfl, rfl⟩
  · refine .inr ⟨?_, ?_⟩
    · rintro rfl
      cases hu
    · rw [Arrival.child?] at hv
      split at hv
      · obtain ⟨ahead, n, behind, -, rfl⟩ := exists_of_arrivalAmong? hv
        exact List.cons_ne_nil _ _
      · cases hv

/-- What is declared again on an element takes no prefix that the element keeps or that the schema
has around it, and it is a namespace that has no prefix there but the default one. -/
theorem redeclared_fresh {tag : Tag} {content : List Node} (h : arrival? l (path ++ [i]) = some v)
    (hnode : v.node = .element tag content) :
    ∀ d ∈ v.redeclared,
      d.1 ∉ (v.place.kept v.added tag ++ v.place.root).map (·.1) ∧
      ∀ pre ≠ "", Scope.namespace? (v.place.kept v.added tag ++ v.place.root) pre ≠ some d.2 := by
  intro d hd
  obtain ⟨rfl, hplace, hadded⟩ | ⟨-, hne⟩ := place_of_arrival? h
  · have hfresh : (v.place.enter v.added tag).Fresh v.added := by
      intro d hd
      rw [hadded] at hd
      cases hd
    have hlast := v.place.getLast?_enter_of_nil v.added tag (by rw [hplace]; rfl)
    have hbelow := (hfresh.prefixedAll tag.attributes).graftedAll hlast content
    rw [Arrival.redeclared, Arrival.result, hnode, grafted, hplace] at hd
    rw [GraftPoint.Fresh, GraftPoint.bound, hlast] at hbelow
    rw [hplace] at hbelow ⊢
    exact hbelow d hd
  · rw [Arrival.redeclared, GraftPoint.redeclared, if_neg (by simpa using hne)] at hd
    cases hd

/-- A type with an element that needs a prefix for an attribute. -/
def arrayType (declarations : Scope) : Node :=
  .element
    { name := ⟨Vocabulary.xsd, "complexType"⟩
      pre := "s"
      declarations := declarations
      attributes := [] }
    [.element
      { name := ⟨Vocabulary.xsd, "attribute"⟩
        pre := "s"
        declarations := [("w", Vocabulary.wsdl)]
        attributes := [{ name := ⟨Vocabulary.wsdl, "arrayType"⟩, value := "tns:A[]", pre := "w" }] }
      []]

/-- A schema around which the namespace of the attribute is the default namespace. -/
def arraySchema : Located :=
  ⟨[0, 0], [("", Vocabulary.wsdl), ("s", Vocabulary.xsd)], .element
    { name := ⟨Vocabulary.xsd, "schema"⟩
      pre := "s"
      declarations := []
      attributes := [] }
    [arrayType [], arrayType [("w", "urn:w")]]⟩

example :
    (standalone arraySchema).children.map (·.declarations) =
      [[("w", Vocabulary.wsdl)], [("w", "urn:w"), ("ns0", Vocabulary.wsdl)]] ∧
    ((standalone arraySchema).descend [0, 0]).map (·.declarations) = some [] := by decide

lemma isText_grafted (p : GraftPoint) (a : Additions) (n : Node) :
    (grafted p a n).1.isText = n.isText := by
  cases n <;> rfl

/-- The nodes of a list and what becomes of them stand at the same positions. -/
lemma exists_arrivalAmong {x : Located} {p : GraftPoint} {a : Additions} {scope : Scope} {k : ℕ}
    {ns : List Node} (h : (Located.place path scope k ns)[i]? = some x) (path' : List ℕ)
    (scope' : Scope) (k' : ℕ) :
    ∃ v x', arrivalAmong? p a i (Node.detachedAll ns) = some v ∧
      (Located.place path' scope' k' (graftedAll p a (Node.detachedAll ns)).1)[i]? = some x' ∧
      Counterpart x v x' := by
  induction ns generalizing a i k k' with
  | nil => cases h
  | cons n rest ih =>
    rw [Node.detachedAll_cons, graftedAll, arrivalAmong?, Node.isText_detached]
    cases hn : n.isText with
    | true =>
      rw [Located.place_text hn] at h
      rw [if_pos rfl, Located.place_text (by rw [isText_grafted, Node.isText_detached, hn])]
      exact ih h k'
    | false =>
      rw [Located.place_cons hn] at h
      rw [if_neg Bool.false_ne_true,
        Located.place_cons (by rw [isText_grafted, Node.isText_detached, hn])]
      cases i with
      | zero =>
        obtain rfl := Option.some.inj h
        exact ⟨_, _, rfl, rfl, rfl, rfl⟩
      | succ i => exact ih h (k' + 1)

end Arrivals

namespace Counterpart
variable {n n' : Located} {v : Arrival}

lemma isElement_eq (h : Counterpart n v n') : n'.isElement = n.isElement := by
  rw [Located.isElement, h.copied, Arrival.result, h.node_eq, Located.isElement]
  cases n.node <;> rfl

lemma localName_eq (h : Counterpart n v n') : n'.localName = n.localName := by
  rw [Located.localName, h.copied, Arrival.result, h.node_eq, Located.localName]
  cases n.node <;> rfl

lemma space_eq (h : Counterpart n v n') : n'.space = n.space := by
  rw [Located.space, h.copied, Arrival.result, h.node_eq, Located.space]
  cases n.node <;> rfl

/-- Of the declarations of an element those of namespaces that have no prefix yet are left; what
has to be declared again comes after them. -/
theorem declarations_eq (h : Counterpart n v n') (he : n.isElement = true) :
    n'.declarations = n.declarations.filter (fun d => !v.knows d.2) ++ v.redeclared := by
  rw [Located.declarations, h.copied, Arrival.redeclared, Arrival.result, h.node_eq,
    Located.declarations]
  rw [Located.isElement] at he
  cases hn : n.node with
  | element tag content => rfl
  | _ =>
    rw [hn] at he
    cases he

theorem child {m m' : Located} {u : Arrival} (h : Counterpart m u m') {i : ℕ}
    (hn : m.children[i]? = some n) :
    ∃ v n', u.child? i = some v ∧ m'.children[i]? = some n' ∧ Counterpart n v n' := by
  obtain ⟨path, outer, node⟩ := m
  obtain ⟨path', outer', node'⟩ := m'
  obtain ⟨place, added, node₂⟩ := u
  obtain rfl : node₂ = node.detached := h.node_eq
  obtain rfl : node' = (grafted place added node.detached).1 := h.copied
  cases node with
  | element tag content => exact exists_arrivalAmong hn path' _ 0
  | _ => cases hn

end Counterpart

section Counterparts
variable {l n : Located} {path : List ℕ} {i : ℕ}

lemma exists_child_standalone (hn : l.children[i]? = some n) :
    ∃ v n', arrival? l [i] = some v ∧ (standalone l).children[i]? = some n' ∧
      Counterpart n v n' := by
  obtain ⟨lpath, outer, node⟩ := l
  cases node with
  | element tag content =>
    obtain ⟨v, n', hv, hn', hcounterpart⟩ := exists_arrivalAmong hn [] _ 0
    exact ⟨v, n', Option.bind_eq_some_iff.mpr ⟨v, hv, rfl⟩, hn', hcounterpart⟩
  | _ => cases hn

/-- Every node below a schema comes into the copy. -/
theorem exists_counterpart (h : l.descend (path ++ [i]) = some n) :
    ∃ v n', arrival? l (path ++ [i]) = some v ∧ (standalone l).descend (path ++ [i]) = some n' ∧
      Counterpart n v n' := by
  induction path using List.reverseRecOn generalizing n i with
  | nil =>
    obtain ⟨m, hm, hn, -⟩ := Located.exists_parent h
    obtain rfl := Option.some.inj hm
    obtain ⟨v, n', hv, hn', hcounterpart⟩ := exists_child_standalone hn
    exact ⟨v, n', hv, by simp [Located.descend, hn'], hcounterpart⟩
  | append_singleton path j ih =>
    obtain ⟨m, hm, hn, -⟩ := Located.exists_parent h
    obtain ⟨u, m', hu, hm', hparent⟩ := ih hm
    obtain ⟨v, n', hv, hn', hcounterpart⟩ := hparent.child hn
    refine ⟨v, n', (arrival?_concat hu).trans hv, ?_, hcounterpart⟩
    rw [Located.descend_concat, hm', Option.bind_some, hn']

end Counterparts

end Schema
end ServiceDescription
