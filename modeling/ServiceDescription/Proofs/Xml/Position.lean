import Mathlib.Data.List.Pairwise
import ServiceDescription.Xml.Located

/-! Where nodes stand. Children take their positions one after the other, and text takes none. A node
is within another one when the path of the other begins its own; the descendants of a node are within
it. Two nodes are apart when neither is within the other. What is within one of two nodes that are
apart is apart from everything within the other, so that no node is found twice by going down. -/
namespace ServiceDescription.Xml

namespace Node

/-- The number of positions that nodes take. -/
def positions (ns : List Node) : ℕ := ns.countP fun n => !n.isText

lemma positions_cons_of_text {n : Node} (h : n.isText = true) (ns : List Node) :
    positions (n :: ns) = positions ns := List.countP_cons_of_neg (by simp [h])

lemma positions_cons {n : Node} (h : n.isText = false) (ns : List Node) :
    positions (n :: ns) = positions ns + 1 := List.countP_cons_of_pos (by simp [h])

end Node

namespace Located

def Within (d l : Located) : Prop := l.path <+: d.path

instance (d l : Located) : Decidable (Within d l) :=
  inferInstanceAs (Decidable (l.path <+: d.path))

def Below (d l : Located) : Prop := l.path <+: d.path ∧ d.path ≠ l.path

def Apart (a b : Located) : Prop := ¬a.path <+: b.path ∧ ¬b.path <+: a.path

variable {a b c d l : Located}

lemma Within.refl (l : Located) : Within l l := List.prefix_rfl

lemma Within.trans (h : Within a b) (h' : Within b c) : Within a c := List.IsPrefix.trans h' h

lemma Below.within (h : Below a b) : Within a b := h.1

lemma Below.trans_within (h : Within a b) (h' : Below b c) : Below a c := by
  refine ⟨h'.1.trans h, fun he => h'.2 ?_⟩
  exact (List.IsPrefix.eq_of_length_le h'.1 (he ▸ h.length_le)).symm

lemma Below.path_ne (h : Below a b) : a.path ≠ b.path := h.2

instance : Std.Symm Apart := ⟨fun _ _ h => ⟨h.2, h.1⟩⟩

lemma Apart.path_ne (h : Apart a b) : a.path ≠ b.path := fun he => h.1 (he ▸ List.prefix_rfl)

lemma Apart.mono (h : Apart a b) (ha : Within c a) (hb : Within d b) : Apart c d := by
  constructor
  · intro hcd
    rcases List.prefix_or_prefix_of_prefix (List.IsPrefix.trans ha hcd) hb with hp | hp
    · exact h.1 hp
    · exact h.2 hp
  · intro hdc
    rcases List.prefix_or_prefix_of_prefix ha (List.IsPrefix.trans hb hdc) with hp | hp
    · exact h.1 hp
    · exact h.2 hp

/-- Two places under one parent are apart when their positions differ. -/
lemma apart_of_positions {path : List ℕ} {i j : ℕ} (ha : a.path = path ++ [i])
    (hb : b.path = path ++ [j]) (hij : i ≠ j) : Apart a b := by
  constructor <;> intro hp <;>
    simp [ha, hb, List.prefix_append_right_inj, hij, Ne.symm hij] at hp

lemma place_text {n : Node} (h : n.isText = true) (path : List ℕ) (scope : Scope) (i : ℕ)
    (ns : List Node) : place path scope i (n :: ns) = place path scope i ns := by
  rw [place, if_pos h]

lemma place_cons {n : Node} (h : n.isText = false) (path : List ℕ) (scope : Scope) (i : ℕ)
    (ns : List Node) :
    place path scope i (n :: ns) = ⟨path ++ [i], scope, n⟩ :: place path scope (i + 1) ns := by
  rw [place, h, if_neg Bool.false_ne_true]

lemma place_append (path : List ℕ) (scope : Scope) (i : ℕ) (ns ms : List Node) :
    place path scope i (ns ++ ms) =
      place path scope i ns ++ place path scope (i + Node.positions ns) ms := by
  induction ns generalizing i with
  | nil => rfl
  | cons n ns ih =>
    cases hn : n.isText with
    | true =>
      rw [List.cons_append, place_text hn, place_text hn, ih, Node.positions_cons_of_text hn]
    | false =>
      rw [List.cons_append, place_cons hn, place_cons hn, ih, Node.positions_cons hn,
        List.cons_append, Nat.add_assoc, Nat.add_comm 1]

/-- A node found among others, with what stands ahead of it and behind it. -/
lemma exists_of_mem_place {path : List ℕ} {scope : Scope} {i : ℕ} {ns : List Node} {d : Located}
    (h : d ∈ place path scope i ns) :
    ∃ ahead n behind, ns = ahead ++ n :: behind ∧
      d = ⟨path ++ [i + Node.positions ahead], scope, n⟩ := by
  induction ns generalizing i with
  | nil => cases h
  | cons n ns ih =>
    cases hn : n.isText with
    | true =>
      rw [place_text hn] at h
      obtain ⟨ahead, m, behind, rfl, rfl⟩ := ih h
      refine ⟨n :: ahead, m, behind, rfl, ?_⟩
      rw [Node.positions_cons_of_text hn]
    | false =>
      rw [place_cons hn] at h
      rcases List.mem_cons.mp h with rfl | h
      · exact ⟨[], n, ns, rfl, rfl⟩
      · obtain ⟨ahead, m, behind, rfl, rfl⟩ := ih h
        refine ⟨n :: ahead, m, behind, rfl, ?_⟩
        rw [Node.positions_cons hn, Nat.add_assoc, Nat.add_comm 1]

lemma path_of_mem_place {path : List ℕ} {scope : Scope} {i : ℕ} {ns : List Node}
    (h : d ∈ place path scope i ns) : ∃ j, i ≤ j ∧ d.path = path ++ [j] := by
  obtain ⟨ahead, n, behind, -, rfl⟩ := exists_of_mem_place h
  exact ⟨_, Nat.le_add_right i _, rfl⟩

lemma outer_of_mem_place {path : List ℕ} {scope : Scope} {i : ℕ} {ns : List Node}
    (h : d ∈ place path scope i ns) : d.outer = scope := by
  obtain ⟨ahead, n, behind, -, rfl⟩ := exists_of_mem_place h
  rfl

lemma pairwise_place (path : List ℕ) (scope : Scope) (i : ℕ) (ns : List Node) :
    (place path scope i ns).Pairwise Apart := by
  induction ns generalizing i with
  | nil => exact .nil
  | cons n ns ih =>
    rw [place]
    split
    · exact ih i
    · refine List.pairwise_cons.mpr ⟨fun d hd => ?_, ih (i + 1)⟩
      obtain ⟨j, hj, hp⟩ := path_of_mem_place hd
      exact apart_of_positions rfl hp (by omega)

/-- The children of a node stand apart. -/
theorem pairwise_children (l : Located) : l.children.Pairwise Apart :=
  pairwise_place l.path l.scope 0 l.content

theorem below_of_mem_children (h : d ∈ l.children) : Below d l := by
  obtain ⟨j, -, hp⟩ := path_of_mem_place h
  exact ⟨⟨[j], hp.symm⟩, by simp [hp]⟩

lemma apart_of_children (ha : a ∈ l.children) (hb : b ∈ l.children) (hab : a ≠ b) : Apart a b :=
  l.pairwise_children.forall ha hb hab

lemma pairwise_childrenNamed (l : Located) (name : String) (spaces : Option (List String)) :
    (l.childrenNamed name spaces).Pairwise Apart := l.pairwise_children.filter _

variable {name : String} {spaces : Option (List String)}

lemma mem_children_of_named (h : d ∈ l.childrenNamed name spaces) : d ∈ l.children :=
  (List.mem_filter.mp h).1

lemma localName_of_named (h : d ∈ l.childrenNamed name spaces) : d.localName = name := by
  have hn := (List.mem_filter.mp h).2
  simp only [hasName, Bool.and_eq_true, decide_eq_true_eq] at hn
  exact hn.1

lemma belowAll_eq_flatMap (path : List ℕ) (scope : Scope) (i : ℕ) (ns : List Node) :
    belowAll path scope i ns = (place path scope i ns).flatMap fun c => c :: c.descendants := by
  induction ns generalizing i with
  | nil => rfl
  | cons n ns ih =>
    rw [belowAll, place]
    split
    · exact ih i
    · rw [List.flatMap_cons, ← ih, List.cons_append]
      rfl

/-- What lies below a node lies below its children, in their order. -/
theorem descendants_eq_flatMap (l : Located) :
    l.descendants = l.children.flatMap fun c => c :: c.descendants := by
  obtain ⟨path, outer, n⟩ := l
  cases n with
  | element tag content => exact belowAll_eq_flatMap path _ 0 content
  | _ => rfl

lemma mem_descendants_of_mem_children (h : d ∈ l.children) : d ∈ l.descendants := by
  rw [descendants_eq_flatMap]
  exact List.mem_flatMap.mpr ⟨d, h, List.mem_cons_self⟩

lemma mem_descendants_of_childNamed? (h : l.childNamed? name spaces = some d) :
    d ∈ l.descendants := mem_descendants_of_mem_children (List.mem_of_find?_eq_some h)

lemma descendants_subset_of_mem_children (h : c ∈ l.children) : c.descendants ⊆ l.descendants := by
  intro d hd
  rw [descendants_eq_flatMap]
  exact List.mem_flatMap.mpr ⟨c, h, List.mem_cons_of_mem c hd⟩

/-- What is below a node is one of its children or below one of them. -/
theorem descendants_induction {P : (l d : Located) → d ∈ l.descendants → Prop}
    (child : ∀ l c (hc : c ∈ l.children), P l c (mem_descendants_of_mem_children hc))
    (deeper : ∀ l c d (hc : c ∈ l.children) (hd : d ∈ c.descendants), P c d hd →
      P l d (descendants_subset_of_mem_children hc hd))
    (l d : Located) (h : d ∈ l.descendants) : P l d h := by
  have hflat := h
  rw [descendants_eq_flatMap] at hflat
  obtain ⟨c, hc, hd⟩ := List.mem_flatMap.mp hflat
  rcases List.mem_cons.mp hd with rfl | hd
  · exact child l d hc
  · exact deeper l c d hc hd (descendants_induction child deeper c d hd)
termination_by l.weight
decreasing_by exact Nat.lt_of_le_of_lt (weight_le_weights hc) l.weights_children_lt

theorem descendants_subset (h : c ∈ l.descendants) : c.descendants ⊆ l.descendants := by
  induction l, c, h using descendants_induction with
  | child l c hc => exact descendants_subset_of_mem_children hc
  | deeper l b c hb hc ih => exact List.Subset.trans ih (descendants_subset_of_mem_children hb)

lemma cons_descendants_subset (h : c ∈ l :: l.descendants) :
    c :: c.descendants ⊆ l :: l.descendants := by
  rcases List.mem_cons.mp h with rfl | hc
  · exact List.Subset.refl _
  · exact List.cons_subset.mpr ⟨h, List.subset_cons_of_subset _ (descendants_subset hc)⟩

theorem below_of_mem_descendants (h : d ∈ l.descendants) : Below d l := by
  induction l, d, h using descendants_induction with
  | child l c hc => exact below_of_mem_children hc
  | deeper l c d hc hd ih => exact (below_of_mem_children hc).trans_within ih.within

lemma Apart.notMem_descendants (h : Apart a b) : a ∉ b.descendants :=
  fun ha => h.2 (below_of_mem_descendants ha).within

/-- The declarations of an element itself. -/
def declarations (l : Located) : Scope :=
  match l.node with
  | .element tag _ => tag.declarations
  | _ => []

lemma scope_of_isElement {l : Located} (h : l.isElement = true) :
    l.scope = l.declarations ++ l.outer := by
  obtain ⟨path, outer, n⟩ := l
  cases n with
  | element tag content => rfl
  | _ => cases h

lemma scope_of_not_isElement {l : Located} (h : l.isElement = false) : l.scope = [] := by
  obtain ⟨path, outer, n⟩ := l
  cases n with
  | element tag content => cases h
  | _ => rfl

lemma isElement_of_declares {l : Located} {pre uri : String}
    (h : l.declarations.namespace? pre = some uri) : l.isElement = true := by
  obtain ⟨path, outer, n⟩ := l
  cases n with
  | element tag content => rfl
  | _ => cases h

lemma descend_concat (l : Located) (path : List ℕ) (i : ℕ) :
    l.descend (path ++ [i]) = (l.descend path).bind fun n => n.children[i]? := by
  induction path generalizing l with
  | nil => simp [descend]
  | cons j path ih =>
    cases hj : l.children[j]? with
    | none => simp [descend, hj]
    | some c => simpa [descend, hj] using ih c

/-- Going down leads to the node itself or below it. -/
lemma mem_of_descend {l n : Located} {path : List ℕ} (h : l.descend path = some n) :
    n ∈ l :: l.descendants := by
  induction path generalizing l with
  | nil =>
    obtain rfl := Option.some.inj h
    exact List.mem_cons_self
  | cons i path ih =>
    obtain ⟨c, hc, hn⟩ := Option.bind_eq_some_iff.mp h
    have hchild : c ∈ l.children := List.mem_of_getElem? hc
    rw [descendants_eq_flatMap]
    exact List.mem_cons_of_mem _ (List.mem_flatMap.mpr ⟨c, hchild, ih hn⟩)

/-- The first step on the way to a node. -/
lemma exists_first {l n : Located} {path : List ℕ} (h : l.descend path = some n)
    (hne : path ≠ []) :
    ∃ c, l.descend (path.take 1) = some c ∧ c ∈ l.children ∧ n ∈ c :: c.descendants := by
  cases path with
  | nil => exact absurd rfl hne
  | cons i path =>
    obtain ⟨c, hc, hn⟩ := Option.bind_eq_some_iff.mp h
    refine ⟨c, ?_, List.mem_of_getElem? hc, mem_of_descend hn⟩
    exact Option.bind_eq_some_iff.mpr ⟨c, hc, rfl⟩

/-- The last step on the way to a node. -/
lemma exists_parent {l n : Located} {path : List ℕ} {i : ℕ}
    (h : l.descend (path ++ [i]) = some n) :
    ∃ m, l.descend path = some m ∧ m.children[i]? = some n ∧ n.outer = m.scope := by
  rw [descend_concat] at h
  obtain ⟨m, hm, hn⟩ := Option.bind_eq_some_iff.mp h
  exact ⟨m, hm, hn, outer_of_mem_place (List.mem_of_getElem? hn)⟩

end Located
end ServiceDescription.Xml
