import ServiceDescription.Proofs.Xml.Arrangement

/-! Places in a tree from which nodes are taken away. A spot is a tree with a gap among the children
of one of its children. What stands ahead of the gap is the same whatever fills it; what stands
behind it takes other positions, but says the same. -/
namespace ServiceDescription.Xml

namespace Located

lemma children_element (path : List ℕ) (outer : Scope) (tag : Tag) (content : List Node) :
    children ⟨path, outer, .element tag content⟩ =
      place path (tag.declarations ++ outer) 0 content := rfl

/-- Nodes say the same wherever they are placed. -/
lemma forall₂_place_self (path path' : List ℕ) (scope : Scope) (i j : ℕ) (ns : List Node) :
    List.Forall₂ Alike (place path scope i ns) (place path' scope j ns) :=
  forall₂_place (Node.matchAll_of_agree (.refl scope) ns) path path' i j

end Located

/-- A tree with a gap: the nodes around one child, and around a place in that child. -/
structure Spot where
  path : List ℕ
  outer : Scope
  root : Tag
  before : List Node
  parent : Tag
  ahead : List Node
  behind : List Node
  after : List Node

namespace Spot
variable (s : Spot)

/-- The tree with nodes in the gap. -/
def filled (ns : List Node) : Located :=
  ⟨s.path, s.outer,
    .element s.root (s.before ++ .element s.parent (s.ahead ++ (ns ++ s.behind)) :: s.after)⟩

/-- The tree as far as the gap. -/
def cutOff : Located :=
  ⟨s.path, s.outer, .element s.root (s.before ++ [.element s.parent s.ahead])⟩

def scope : Scope := s.root.declarations ++ s.outer

/-- The child that has the gap, with the given content. -/
def parentAt (content : List Node) : Located :=
  ⟨s.path ++ [Node.positions s.before], s.scope, .element s.parent content⟩

/-- The child with nodes in its gap. -/
def parentWith (ns : List Node) : Located := s.parentAt (s.ahead ++ (ns ++ s.behind))

/-- A node that stands first in the gap. -/
def nodeAt (n : Node) : Located :=
  ⟨s.path ++ [Node.positions s.before] ++ [Node.positions s.ahead],
    s.parent.declarations ++ s.scope, n⟩

def childrenBefore : List Located := Located.place s.path s.scope 0 s.before

def childrenAfter : List Located :=
  Located.place s.path s.scope (Node.positions s.before + 1) s.after

lemma children_filled (ns : List Node) :
    (s.filled ns).children =
      s.childrenBefore ++ s.parentWith ns :: s.childrenAfter := by
  rw [filled, Located.children_element, Located.place_append, Nat.zero_add]
  rfl

lemma children_cutOff : s.cutOff.children = s.childrenBefore ++ [s.parentAt s.ahead] := by
  rw [cutOff, Located.children_element, Located.place_append, Nat.zero_add]
  rfl

/-- With a node in the gap or without it the children of the parent are the same ahead of the gap
and say the same behind it. -/
lemma exists_children_parentWith {n : Node} (hn : n.isText = false) :
    ∃ b b' : List Located, List.Forall₂ Located.Alike b b' ∧
      (s.parentWith [n]).children = (s.parentAt s.ahead).children ++ s.nodeAt n :: b ∧
      (s.parentWith []).children = (s.parentAt s.ahead).children ++ b' := by
  refine ⟨_, _, Located.forall₂_place_self (s.path ++ [Node.positions s.before])
    (s.path ++ [Node.positions s.before]) (s.parent.declarations ++ s.scope)
    (Node.positions s.ahead + 1) (Node.positions s.ahead) s.behind, ?_, ?_⟩
  · rw [parentWith, parentAt, Located.children_element, Located.place_append, Nat.zero_add,
      List.singleton_append, Located.place, hn, if_neg Bool.false_ne_true]
    rfl
  · rw [parentWith, parentAt, Located.children_element, Located.place_append, Nat.zero_add, List.nil_append]
    rfl

/-- The spot is where the second node stands in the first one. -/
structure Frames (l d : Located) : Prop where
  whole : l = s.filled [d.node]
  here : d = s.nodeAt d.node

end Spot

/-- Every child of a child of a node has a spot in which it stands. -/
theorem exists_frames {l parent d : Located} (hparent : parent ∈ l.children)
    (hd : d ∈ parent.children) : ∃ s : Spot, s.Frames l d := by
  obtain ⟨path, outer, node⟩ := l
  cases node with
  | element root content =>
    obtain ⟨before, child, after, hcontent, rfl⟩ := Located.exists_of_mem_place hparent
    cases child with
    | element tag inner =>
      obtain ⟨ahead, n, behind, hinner, rfl⟩ := Located.exists_of_mem_place hd
      have hcontent : content = before ++ .element tag inner :: after := hcontent
      have hinner : inner = ahead ++ n :: behind := hinner
      refine ⟨⟨path, outer, root, before, tag, ahead, behind, after⟩, ?_, ?_⟩
      · rw [hcontent, hinner]
        rfl
      · rw [Nat.zero_add, Nat.zero_add]
        rfl
    | _ => cases hd
  | _ => cases hparent

/-- The child with the gap is the one whose child is framed. -/
lemma Spot.Frames.parent_eq {s : Spot} {l parent d : Located} (h : s.Frames l d)
    (hparent : parent ∈ l.children) (hd : d ∈ parent.children) :
    parent = s.parentWith [d.node] := by
  have hwith : s.parentWith [d.node] ∈ l.children := by
    rw [h.whole, s.children_filled]
    exact List.mem_append_right _ List.mem_cons_self
  by_contra hne
  have hapart := Located.apart_of_children hparent hwith hne
  have hbelow : d.Within (s.parentWith [d.node]) := by
    rw [h.here]
    exact List.prefix_append _ _
  exact (hapart.mono (Located.below_of_mem_children hd).within hbelow).path_ne rfl

end ServiceDescription.Xml
