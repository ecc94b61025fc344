import ServiceDescription.Text.Blank
import ServiceDescription.Xml.Node

/-! Nodes at their place in a document, and looking around from there. Constructs are found by local
name, and by namespace only where one is asked for. -/
namespace ServiceDescription.Xml

/-- A node, the child positions that lead to it from the root, and the declarations around it. Text
takes no position. -/
structure Located where
  path : List Nat
  outer : Scope
  node : Node
  deriving Repr

namespace Located

def root (n : Node) : Located := ⟨[], [], n⟩

def isElement (l : Located) : Bool := l.node.isElement

/-- The local name of an element; every other node has the empty one. -/
def localName (l : Located) : String :=
  match l.node with
  | .element tag _ => tag.name.localName
  | _ => ""

def space (l : Located) : String :=
  match l.node with
  | .element tag _ => tag.name.space
  | _ => ""

/-- The declarations in scope at an element, its own before those around it. -/
def scope (l : Located) : Scope :=
  match l.node with
  | .element tag _ => tag.declarations ++ l.outer
  | _ => []

def attributes (l : Located) : List Attribute :=
  match l.node with
  | .element tag _ => tag.attributes
  | _ => []

def defaults (l : Located) : List Attribute :=
  match l.node with
  | .element tag _ => tag.defaults
  | _ => []

/-- An attribute of the tag, or else one that the document type supplies. -/
def attrNamed? (l : Located) (name : ExpandedName) : Option String :=
  ((l.attributes ++ l.defaults).find? (·.name = name)).map (·.value)

/-- The value of an attribute without a namespace. -/
def attr? (l : Located) (name : String) : Option String := l.attrNamed? ⟨"", name⟩

def attr (l : Located) (name : String) : String := (l.attr? name).getD ""

def content (l : Located) : List Node :=
  match l.node with
  | .element _ content => content
  | _ => []

/-- The nodes of some content, from position `i` on. -/
def place (path : List Nat) (scope : Scope) (i : Nat) : List Node → List Located
  | [] => []
  | n :: rest =>
    if n.isText then place path scope i rest
    else ⟨path ++ [i], scope, n⟩ :: place path scope (i + 1) rest

/-- The children in document order, text left out. -/
def children (l : Located) : List Located := place l.path l.scope 0 l.content

/-- The number of nodes from this one down. -/
def weight (l : Located) : Nat := l.node.size

def weights : List Located → Nat
  | [] => 0
  | l :: ls => l.weight + weights ls

@[simp] theorem weights_nil : weights [] = 0 := rfl
@[simp] theorem weights_cons (l : Located) (ls : List Located) :
    weights (l :: ls) = l.weight + weights ls := rfl

theorem weight_le_weights {l : Located} {ls : List Located} (h : l ∈ ls) :
    l.weight ≤ weights ls := by
  induction ls with
  | nil => cases h
  | cons a ls ih =>
    rcases List.mem_cons.mp h with rfl | h
    · simp
    · have := ih h
      simp; omega

theorem weights_filter_le (p : Located → Bool) (ls : List Located) :
    weights (ls.filter p) ≤ weights ls := by
  induction ls with
  | nil => simp
  | cons a ls ih =>
    simp only [List.filter_cons]
    split <;> simp <;> omega

theorem weights_place_le (path : List Nat) (scope : Scope) (i : Nat) (ns : List Node) :
    weights (place path scope i ns) ≤ Node.sizeOfList ns := by
  induction ns generalizing i with
  | nil => simp [place]
  | cons n rest ih =>
    simp only [place, Node.sizeOfList]
    split
    · have := ih i
      omega
    · have := ih (i + 1)
      simp only [weights_cons, weight]
      omega

theorem sizeOfList_content_lt (l : Located) : Node.sizeOfList l.content < l.weight := by
  unfold content weight
  cases l.node <;> simp [Node.size, Node.sizeOfList]

theorem weights_children_lt (l : Located) : weights l.children < l.weight :=
  Nat.lt_of_le_of_lt (weights_place_le l.path l.scope 0 l.content) l.sizeOfList_content_lt

mutual

def below (path : List Nat) (outer : Scope) : Node → List Located
  | .element tag content => belowAll path (tag.declarations ++ outer) 0 content
  | _ => []

def belowAll (path : List Nat) (scope : Scope) (i : Nat) : List Node → List Located
  | [] => []
  | n :: rest =>
    if n.isText then belowAll path scope i rest
    else ⟨path ++ [i], scope, n⟩ ::
      (below (path ++ [i]) scope n ++ belowAll path scope (i + 1) rest)

end

/-- All nodes below a node in document order, text left out. -/
def descendants (l : Located) : List Located := below l.path l.outer l.node

/-- The node that a list of child positions leads to. -/
def descend (l : Located) : List Nat → Option Located
  | [] => some l
  | i :: rest => l.children[i]?.bind (·.descend rest)

/-- `spaces` are the namespaces asked for, if any are. -/
def hasName (name : String) (spaces : Option (List String)) (l : Located) : Bool :=
  l.localName = name && spaces.all (·.contains l.space)

def childrenNamed (l : Located) (name : String) (spaces : Option (List String)) : List Located :=
  l.children.filter (hasName name spaces)

def childNamed? (l : Located) (name : String) (spaces : Option (List String)) : Option Located :=
  l.children.find? (hasName name spaces)

theorem childNamed?_eq_head? (l : Located) (name : String) (spaces : Option (List String)) :
    l.childNamed? name spaces = (l.childrenNamed name spaces).head? := by
  simp [childNamed?, childrenNamed]

theorem weight_childNamed?_lt {l c : Located} {name : String} {spaces : Option (List String)}
    (h : l.childNamed? name spaces = some c) : c.weight < l.weight :=
  Nat.lt_of_le_of_lt (weight_le_weights (List.mem_of_find?_eq_some h)) l.weights_children_lt

theorem weights_childrenNamed_lt (l : Located) (name : String) (spaces : Option (List String)) :
    weights (l.childrenNamed name spaces) < l.weight :=
  Nat.lt_of_le_of_lt (weights_filter_le ..) l.weights_children_lt

def descendantNamed? (l : Located) (name : String) (spaces : Option (List String)) :
    Option Located :=
  l.descendants.find? (hasName name spaces)

/-- The trimmed text of the first documentation child. -/
def documentation (l : Located) : String :=
  match l.childNamed? "documentation" none with
  | some d => Text.trim d.node.characterData
  | none => ""

end Located
end ServiceDescription.Xml
