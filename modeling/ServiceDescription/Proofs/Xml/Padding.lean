import ServiceDescription.Proofs.Xml.Likeness
import ServiceDescription.Proofs.Xml.Spot

/-! Trees with nodes put in that nothing looks for: comments and processing instructions anywhere,
and elements under names of their own wherever no text is collected and nothing is searched in depth.
Reading cannot tell a tree with one such node from the tree without it. -/
namespace ServiceDescription.Xml

/-- Documentation is read for all the text in it, and a simple type is searched at any depth. -/
def Tag.isDeep (tag : Tag) : Bool := tag.name.localName ∈ ["documentation", "simpleType"]

namespace Node

/-- The nodes that nothing looks for, in an element that is searched in depth or in another one. -/
inductive Unread : Bool → Node → Prop
  | comment (deep : Bool) (value : String) : Unread deep (.comment value)
  | instruction (deep : Bool) (target data : String) : Unread deep (.instruction target data)
  | element (tag : Tag) (content : List Node) (hname : tag.name.localName ∉ constructNames) :
      Unread false (.element tag content)

/-- The second content is the first one with an unread node in it, between two nodes or amid a text
that it splits. -/
inductive PaddedAll (deep : Bool) : List Node → List Node → Prop
  | between (before after : List Node) {n : Node} (hn : Unread deep n) :
      PaddedAll deep (before ++ after) (before ++ n :: after)
  | amid (before after : List Node) (v w : String) {n : Node} (hn : Unread deep n) :
      PaddedAll deep (before ++ .text (v ++ w) :: after)
        (before ++ .text v :: n :: .text w :: after)

/-- The second tree is the first one with an unread node somewhere in it; the flag tells whether an
element around them is searched in depth. -/
inductive Padded : Bool → Node → Node → Prop
  | here {deep : Bool} (tag : Tag) {content content' : List Node}
      (h : PaddedAll (deep || tag.isDeep) content content') :
      Padded deep (.element tag content) (.element tag content')
  | within {deep : Bool} (tag : Tag) (before after : List Node) {n n' : Node}
      (h : Padded (deep || tag.isDeep) n n') :
      Padded deep (.element tag (before ++ n :: after)) (.element tag (before ++ n' :: after))

lemma characterDataOf_append (ns ms : List Node) :
    characterDataOf (ns ++ ms) = characterDataOf ns ++ characterDataOf ms := by
  induction ns with
  | nil => rw [List.nil_append, characterDataOf, String.empty_append]
  | cons n ns ih => rw [List.cons_append, characterDataOf, characterDataOf, ih, String.append_assoc]

lemma Unread.isText {deep : Bool} {n : Node} (h : Unread deep n) : n.isText = false := by
  cases h <;> rfl

lemma Unread.characterData {n : Node} (h : Unread true n) : n.characterData = "" := by
  cases h <;> rfl

lemma PaddedAll.characterDataOf_eq {ns ns' : List Node} (h : PaddedAll true ns ns') :
    characterDataOf ns = characterDataOf ns' := by
  cases h with
  | between before after hn =>
    rw [characterDataOf_append, characterDataOf_append, characterDataOf, hn.characterData,
      String.empty_append]
  | amid before after v w hn =>
    simp only [characterDataOf_append, characterDataOf, hn.characterData, characterData,
      String.empty_append, String.append_assoc]

lemma Padded.characterData_eq {deep : Bool} {n n' : Node} (h : Padded deep n n')
    (hdeep : deep = true) : characterData n = characterData n' := by
  induction h with
  | here tag h =>
    rw [hdeep, Bool.true_or] at h
    exact h.characterDataOf_eq
  | within tag before after h ih =>
    rw [characterData, characterData, characterDataOf_append, characterDataOf_append,
      characterDataOf, characterDataOf, ih (by rw [hdeep, Bool.true_or])]

lemma Padded.isText {deep : Bool} {n n' : Node} (h : Padded deep n n') :
    n.isText = false ∧ n'.isText = false := by
  cases h <;> exact ⟨rfl, rfl⟩

end Node

namespace Located

/-- Two nodes that are alike, or of which the second one is the first with an unread node in it. -/
inductive UpToPadding : Located → Located → Prop
  | alike {l l' : Located} (h : l.Alike l') : UpToPadding l l'
  | padded {deep : Bool} {n n' : Node} (path path' : List ℕ) (outer : Scope)
      (h : Node.Padded deep n n') : UpToPadding ⟨path, outer, n⟩ ⟨path', outer, n'⟩

variable {deep : Bool} {name : String} {spaces : Option (List String)}

lemma not_hasName_of_unread {n : Node} (h : Node.Unread deep n) (hname : name ∈ constructNames)
    (path : List ℕ) (scope : Scope) : ¬hasName name spaces ⟨path, scope, n⟩ = true := by
  have hne : Located.localName ⟨path, scope, n⟩ ≠ name := by
    rintro rfl
    cases h with
    | element _ _ htag => exact htag hname
    | _ => exact (show "" ∉ constructNames by decide) hname
  simp [hasName, hne]

lemma descendants_of_unread {n : Node} (h : Node.Unread true n) (path : List ℕ) (scope : Scope) :
    descendants ⟨path, scope, n⟩ = [] := by
  cases h <;> rfl

section FlatMap
variable {g : Located → List Located}
  (hg : ∀ c c', c.Alike c' → List.Forall₂ Alike (g c) (g c')) (path path' : List ℕ) (scope : Scope)
include hg

/-- What nodes lead to does not change with one more node that leads to nothing. -/
lemma forall₂_flatMap_padded {ns ns' : List Node} (h : Node.PaddedAll deep ns ns')
    (hunread : ∀ path n, Node.Unread deep n → g ⟨path, scope, n⟩ = []) :
    List.Forall₂ Alike ((place path scope 0 ns).flatMap g)
      ((place path' scope 0 ns').flatMap g) := by
  cases h with
  | between before after hn =>
    rw [place_append, place_append, List.flatMap_append, List.flatMap_append, place_cons hn.isText,
      List.flatMap_cons, hunread _ _ hn, List.nil_append]
    exact List.rel_append (List.rel_flatMap (forall₂_place_self ..) hg)
      (List.rel_flatMap (forall₂_place_self ..) hg)
  | amid before after v w hn =>
    rw [place_append, place_append, List.flatMap_append, List.flatMap_append, place_text rfl,
      place_text rfl, place_cons hn.isText, place_text rfl, List.flatMap_cons, hunread _ _ hn,
      List.nil_append]
    exact List.rel_append (List.rel_flatMap (forall₂_place_self ..) hg)
      (List.rel_flatMap (forall₂_place_self ..) hg)

lemma forall₂_flatMap_within (before after : List Node) {n n' : Node} (h : Node.Padded deep n n')
    (hwithin : ∀ path path', List.Forall₂ UpToPadding (g ⟨path, scope, n⟩) (g ⟨path', scope, n'⟩)) :
    List.Forall₂ UpToPadding ((place path scope 0 (before ++ n :: after)).flatMap g)
      ((place path' scope 0 (before ++ n' :: after)).flatMap g) := by
  have hself : ∀ i j ns, List.Forall₂ UpToPadding ((place path scope i ns).flatMap g)
      ((place path' scope j ns).flatMap g) := fun i j ns =>
    (List.rel_flatMap (forall₂_place_self path path' scope i j ns) hg).imp fun _ _ => .alike
  rw [place_append, place_append, List.flatMap_append, List.flatMap_append, place_cons h.isText.1,
    place_cons h.isText.2, List.flatMap_cons, List.flatMap_cons]
  exact List.rel_append (hself ..) (List.rel_append (hwithin ..) (hself ..))

end FlatMap

variable {n n' : Node} (path path' : List ℕ) (outer : Scope)

lemma hasName_padded (h : Node.Padded deep n n') :
    hasName name spaces ⟨path, outer, n⟩ = hasName name spaces ⟨path', outer, n'⟩ := by
  cases h <;> rfl

theorem forall₂_childrenNamed_padded (h : Node.Padded deep n n') (hname : name ∈ constructNames) :
    List.Forall₂ UpToPadding (childrenNamed ⟨path, outer, n⟩ name spaces)
      (childrenNamed ⟨path', outer, n'⟩ name spaces) := by
  have hflat : ∀ l : Located, l.childrenNamed name spaces =
      l.children.flatMap fun c => [c].filter (hasName name spaces) := fun l => by
    rw [childrenNamed, ← List.filter_flatMap, List.flatMap_singleton']
  have hg : ∀ c c', c.Alike c' → List.Forall₂ Alike ([c].filter (hasName name spaces))
      ([c'].filter (hasName name spaces)) := fun _ _ hc =>
    Alike.forall₂_filter (.cons hc .nil) name spaces
  rw [hflat, hflat]
  cases h with
  | here tag hcontent =>
    refine (forall₂_flatMap_padded hg path path' _ hcontent fun _ _ hn => ?_).imp fun _ _ => .alike
    rw [List.filter_cons_of_neg (not_hasName_of_unread hn hname _ _), List.filter_nil]
  | within tag before after hchild =>
    refine forall₂_flatMap_within hg path path' _ before after hchild fun p p' => ?_
    rw [List.filter_cons, List.filter_cons, hasName_padded p p' _ hchild]
    split
    · exact .cons (.padded _ _ _ hchild) .nil
    · exact .nil

/-- In an element that is searched in depth the same is found anywhere below. -/
theorem forall₂_descendants_padded (h : Node.Padded deep n n') (hdeep : deep = true)
    (hname : name ∈ constructNames) :
    List.Forall₂ UpToPadding ((descendants ⟨path, outer, n⟩).filter (hasName name spaces))
      ((descendants ⟨path', outer, n'⟩).filter (hasName name spaces)) := by
  have hg : ∀ c c', c.Alike c' → List.Forall₂ Alike
      ((c :: c.descendants).filter (hasName name spaces))
      ((c' :: c'.descendants).filter (hasName name spaces)) := fun _ _ hc =>
    Alike.forall₂_filter (.cons hc hc.descendants) name spaces
  -- the induction goes down to the insertion; what is searched in depth is so at every level below
  induction h generalizing path path' outer with
  | here tag hcontent =>
    rw [descendants_eq_flatMap, descendants_eq_flatMap, List.filter_flatMap, List.filter_flatMap]
    refine (forall₂_flatMap_padded hg path path' _ hcontent fun p m hn => ?_).imp fun _ _ => .alike
    rw [List.filter_cons_of_neg (not_hasName_of_unread hn hname _ _)]
    rw [hdeep, Bool.true_or] at hn
    rw [descendants_of_unread hn, List.filter_nil]
  | within tag before after hchild ih =>
    rw [descendants_eq_flatMap, descendants_eq_flatMap, List.filter_flatMap, List.filter_flatMap]
    refine forall₂_flatMap_within hg path path' _ before after hchild fun p p' => ?_
    have hbelow := ih p p' (tag.declarations ++ outer) (by rw [hdeep, Bool.true_or])
    rw [List.filter_cons, List.filter_cons, hasName_padded p p' _ hchild]
    split
    · exact .cons (.padded _ _ _ hchild) hbelow
    · exact hbelow

/-- An element of a name that is searched in depth is so whatever stands around it. -/
lemma padded_of_deepName (h : Node.Padded deep n n')
    (hl : Located.localName ⟨path, outer, n⟩ ∈ ["documentation", "simpleType"]) :
    Node.Padded true n n' := by
  have hor : ∀ tag : Tag, tag.name.localName ∈ ["documentation", "simpleType"] →
      (deep || tag.isDeep) = (true || tag.isDeep) := fun tag htag => by
    rw [Tag.isDeep, decide_eq_true htag, Bool.or_true, Bool.or_true]
  cases h with
  | here tag hcontent => exact .here tag (hor tag hl ▸ hcontent)
  | within tag before after hchild => exact .within tag before after (hor tag hl ▸ hchild)

/-- A node that has an unread node in it cannot be told from the same node without. -/
instance : Likeness UpToPadding where
  space_eq h := by
    cases h with
    | alike h => exact h.space_eq
    | padded _ _ _ h => cases h <;> rfl
  attr?_eq h name hname := by
    cases h with
    | alike h => exact h.attr?_eq name hname
    | padded _ _ _ h => cases h <;> rfl
  rel_attr? h name hname := by
    cases h with
    | alike h => exact h.rel_attrNamed? hname
    | padded _ _ _ h => cases h <;> exact (Alike.refl _).rel_attrNamed? hname
  childrenNamed h name hname spaces := by
    cases h with
    | alike h => exact (h.childrenNamed name spaces).imp fun _ _ => .alike
    | padded path path' outer h => exact forall₂_childrenNamed_padded path path' outer h hname
  restriction? h hl := by
    rw [descendantNamed?, descendantNamed?, ← List.head?_filter, ← List.head?_filter]
    refine Lookup.rel_head? ?_
    cases h with
    | alike h => exact (Alike.forall₂_filter h.descendants _ _).imp fun _ _ => .alike
    | padded path path' outer h =>
      have htrue := padded_of_deepName path outer h (by rw [hl]; decide)
      exact forall₂_descendants_padded path path' outer htrue rfl (by decide)
  characterData_eq h hl := by
    cases h with
    | alike h => exact Node.Match.characterData_eq h
    | padded path _ outer h =>
      exact (padded_of_deepName path outer h (by rw [hl]; decide)).characterData_eq rfl

end Located
end ServiceDescription.Xml
