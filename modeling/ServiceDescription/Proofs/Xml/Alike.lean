import ServiceDescription.Proofs.Lookup
import ServiceDescription.Xml.Located
import ServiceDescription.Xml.QualifiedName

/-! Trees that differ only in how they write their references. Two such trees have the same shape,
the same names and texts, and the same values of all attributes, except those that hold qualified
names; these may have other prefixes, and the declarations may stand anywhere, as long as both
values say the same name where they stand. Whatever is found from one node is then found alike from
the other one. -/
namespace ServiceDescription.Xml

/-- The attributes that hold qualified names. -/
def referenceNames : List ExpandedName :=
  ["type", "base", "element", "message", "binding"].map fun name => ⟨"", name⟩

/-- Two values that say the same name, each where it stands, whatever namespace a name without a
prefix gets. -/
def QualifiedName.Same (scope scope' : Scope) (raw raw' : String) : Prop :=
  ∀ fallback, resolve scope fallback raw = resolve scope' fallback raw'

def Tag.value? (tag : Tag) (name : ExpandedName) : Option String :=
  ((tag.attributes ++ tag.defaults).find? (·.name = name)).map (·.value)

/-- Two tags, with the declarations in scope at each, that say the same. -/
structure Tag.Alike (scope scope' : Scope) (tag tag' : Tag) : Prop where
  name : tag.name = tag'.name
  value? : ∀ a ∉ referenceNames, tag.value? a = tag'.value? a
  reference : ∀ a ∈ referenceNames,
    Option.Rel (QualifiedName.Same scope scope') (tag.value? a) (tag'.value? a)

/-- Two attributes of one name, with one value or with references that say the same. -/
def Attribute.Alike (scope scope' : Scope) (b b' : Attribute) : Prop :=
  b.name = b'.name ∧ (b.name ∉ referenceNames → b.value = b'.value) ∧
    (b.name ∈ referenceNames → QualifiedName.Same scope scope' b.value b'.value)

/-- Tags are alike when their attributes are, one by one. -/
lemma Tag.alike_of_attributes {scope scope' : Scope} {tag tag' : Tag} (hname : tag.name = tag'.name)
    (h : List.Forall₂ (Attribute.Alike scope scope') (tag.attributes ++ tag.defaults)
      (tag'.attributes ++ tag'.defaults)) : tag.Alike scope scope' tag' := by
  have hfind : ∀ a, Option.Rel (Attribute.Alike scope scope')
      ((tag.attributes ++ tag.defaults).find? (·.name = a))
      ((tag'.attributes ++ tag'.defaults).find? (·.name = a)) :=
    fun a => Lookup.rel_find? h fun b b' hb => by rw [hb.1]
  refine ⟨hname, fun a ha => ?_, fun a ha => ?_⟩
  · rw [Tag.value?, Tag.value?]
    obtain ⟨hb, hb'⟩ | ⟨b, b', hb, hb', halike⟩ := Lookup.cases_of_rel (hfind a)
    · rw [hb, hb']
    · obtain rfl : b.name = a := by simpa using List.find?_some hb
      rw [hb, hb']
      exact congrArg some (halike.2.1 ha)
  · rw [Tag.value?, Tag.value?]
    obtain ⟨hb, hb'⟩ | ⟨b, b', hb, hb', halike⟩ := Lookup.cases_of_rel (hfind a)
    · rw [hb, hb']
      exact .none
    · obtain rfl : b.name = a := by simpa using List.find?_some hb
      rw [hb, hb']
      exact .some (halike.2.2 ha)

namespace Node

mutual

/-- Two trees of one shape and with the same text, whose tags are related where they stand. What
stands in comments and in processing instructions does not count. -/
inductive Match (R : Scope → Scope → Tag → Tag → Prop) : Scope → Scope → Node → Node → Prop
  | element {outer outer' : Scope} {tag tag' : Tag} {content content' : List Node}
      (htag : R (tag.declarations ++ outer) (tag'.declarations ++ outer') tag tag')
      (hcontent : MatchAll R (tag.declarations ++ outer) (tag'.declarations ++ outer')
        content content') :
      Match R outer outer' (.element tag content) (.element tag' content')
  | text {outer outer' : Scope} (value : String) : Match R outer outer' (.text value) (.text value)
  | comment {outer outer' : Scope} (value value' : String) :
      Match R outer outer' (.comment value) (.comment value')
  | instruction {outer outer' : Scope} (target data target' data' : String) :
      Match R outer outer' (.instruction target data) (.instruction target' data')
  | reference {outer outer' : Scope} (entity : String) :
      Match R outer outer' (.reference entity) (.reference entity)

inductive MatchAll (R : Scope → Scope → Tag → Tag → Prop) :
    Scope → Scope → List Node → List Node → Prop
  | nil {scope scope' : Scope} : MatchAll R scope scope' [] []
  | cons {scope scope' : Scope} {n n' : Node} {rest rest' : List Node}
      (hhead : Match R scope scope' n n') (htail : MatchAll R scope scope' rest rest') :
      MatchAll R scope scope' (n :: rest) (n' :: rest')

end

section Match
variable {R S : Scope → Scope → Tag → Tag → Prop}

mutual

theorem Match.characterData_eq {outer outer' : Scope} {n n' : Node} (h : Match R outer outer' n n') :
    characterData n = characterData n' := by
  cases h with
  | element _ hcontent =>
    rw [characterData, characterData]
    exact hcontent.characterDataOf_eq
  | text => rfl
  | comment => rfl
  | instruction => rfl
  | reference => rfl

theorem MatchAll.characterDataOf_eq {scope scope' : Scope} {ns ns' : List Node}
    (h : MatchAll R scope scope' ns ns') : characterDataOf ns = characterDataOf ns' := by
  cases h with
  | nil => rfl
  | cons hhead htail =>
    rw [characterDataOf, characterDataOf, hhead.characterData_eq, htail.characterDataOf_eq]

end

lemma Match.isText_eq {outer outer' : Scope} {n n' : Node} (h : Match R outer outer' n n') :
    n.isText = n'.isText := by cases h <;> rfl

mutual

theorem Match.mono (hRS : ∀ scope scope' tag tag', R scope scope' tag tag' → S scope scope' tag tag')
    {outer outer' : Scope} {n n' : Node} (h : Match R outer outer' n n') :
    Match S outer outer' n n' := by
  cases h with
  | element htag hcontent => exact .element (hRS _ _ _ _ htag) (hcontent.mono hRS)
  | text value => exact .text value
  | comment value value' => exact .comment value value'
  | instruction target data target' data' => exact .instruction target data target' data'
  | reference entity => exact .reference entity

theorem MatchAll.mono
    (hRS : ∀ scope scope' tag tag', R scope scope' tag tag' → S scope scope' tag tag')
    {scope scope' : Scope} {ns ns' : List Node} (h : MatchAll R scope scope' ns ns') :
    MatchAll S scope scope' ns ns' := by
  cases h with
  | nil => exact .nil
  | cons hhead htail => exact .cons (hhead.mono hRS) (htail.mono hRS)

end
end Match
end Node

namespace Located

/-- Two nodes at their places that say the same. -/
def Alike (l l' : Located) : Prop := Node.Match Tag.Alike l.outer l'.outer l.node l'.node

lemma forall₂_place {scope scope' : Scope} {ns ns' : List Node}
    (h : Node.MatchAll Tag.Alike scope scope' ns ns') (path path' : List ℕ) (i i' : ℕ) :
    List.Forall₂ Alike (place path scope i ns) (place path' scope' i' ns') := by
  induction ns generalizing ns' i i' with
  | nil => cases h; exact .nil
  | cons n ns ih =>
    cases h with
    | cons hhead htail =>
      rw [place, place, hhead.isText_eq]
      split
      · exact ih htail i i'
      · exact .cons hhead (ih htail (i + 1) (i' + 1))

mutual

lemma forall₂_below {outer outer' : Scope} {n n' : Node} (h : Node.Match Tag.Alike outer outer' n n')
    (path path' : List ℕ) :
    List.Forall₂ Alike (below path outer n) (below path' outer' n') := by
  cases h with
  | element _ hcontent =>
    rw [below, below]
    exact forall₂_belowAll hcontent path path' 0 0
  | text => exact .nil
  | comment => exact .nil
  | instruction => exact .nil
  | reference => exact .nil

lemma forall₂_belowAll {scope scope' : Scope} {ns ns' : List Node}
    (h : Node.MatchAll Tag.Alike scope scope' ns ns') (path path' : List ℕ) (i i' : ℕ) :
    List.Forall₂ Alike (belowAll path scope i ns) (belowAll path' scope' i' ns') := by
  cases h with
  | nil => exact .nil
  | cons hhead htail =>
    rw [belowAll, belowAll, hhead.isText_eq]
    split
    · exact forall₂_belowAll htail path path' i i'
    · refine .cons hhead (List.rel_append ?_ ?_)
      · exact forall₂_below hhead (path ++ [i]) (path' ++ [i'])
      · exact forall₂_belowAll htail path path' (i + 1) (i' + 1)

end

namespace Alike
variable {l l' : Located}

theorem children (h : l.Alike l') : List.Forall₂ Alike l.children l'.children := by
  obtain ⟨path, outer, n⟩ := l
  obtain ⟨path', outer', n'⟩ := l'
  cases h with
  | element _ hcontent => exact forall₂_place hcontent path path' 0 0
  | _ => exact .nil

theorem descendants (h : l.Alike l') : List.Forall₂ Alike l.descendants l'.descendants :=
  forall₂_below h l.path l'.path

lemma localName_eq (h : l.Alike l') : l.localName = l'.localName := by
  obtain ⟨path, outer, n⟩ := l
  obtain ⟨path', outer', n'⟩ := l'
  cases h with
  | element htag => exact congrArg ExpandedName.localName htag.name
  | _ => rfl

lemma space_eq (h : l.Alike l') : l.space = l'.space := by
  obtain ⟨path, outer, n⟩ := l
  obtain ⟨path', outer', n'⟩ := l'
  cases h with
  | element htag => exact congrArg ExpandedName.space htag.name
  | _ => rfl

lemma attrNamed?_eq (h : l.Alike l') {a : ExpandedName} (ha : a ∉ referenceNames) :
    l.attrNamed? a = l'.attrNamed? a := by
  obtain ⟨path, outer, n⟩ := l
  obtain ⟨path', outer', n'⟩ := l'
  cases h with
  | element htag => exact htag.value? a ha
  | _ => rfl

lemma rel_attrNamed? (h : l.Alike l') {a : ExpandedName} (ha : a ∈ referenceNames) :
    Option.Rel (QualifiedName.Same l.scope l'.scope) (l.attrNamed? a) (l'.attrNamed? a) := by
  obtain ⟨path, outer, n⟩ := l
  obtain ⟨path', outer', n'⟩ := l'
  cases h with
  | element htag => exact htag.reference a ha
  | _ => exact .none

lemma attr?_eq (h : l.Alike l') (name : String) (ha : ⟨"", name⟩ ∉ referenceNames) :
    l.attr? name = l'.attr? name := h.attrNamed?_eq ha

lemma attr_eq (h : l.Alike l') (name : String) (ha : ⟨"", name⟩ ∉ referenceNames) :
    l.attr name = l'.attr name := by rw [attr, attr, h.attr?_eq name ha]

lemma hasName_eq (h : l.Alike l') (name : String) (spaces : Option (List String)) :
    hasName name spaces l = hasName name spaces l' := by
  rw [hasName, hasName, h.localName_eq, h.space_eq]

/-- What is found under a name among nodes that say the same. -/
lemma forall₂_filter {ls ls' : List Located} (h : List.Forall₂ Alike ls ls') (name : String)
    (spaces : Option (List String)) :
    List.Forall₂ Alike (ls.filter (hasName name spaces)) (ls'.filter (hasName name spaces)) :=
  List.rel_filter (fun _ _ hc => Bool.eq_iff_iff.mp (hc.hasName_eq name spaces)) h

theorem childrenNamed (h : l.Alike l') (name : String) (spaces : Option (List String)) :
    List.Forall₂ Alike (l.childrenNamed name spaces) (l'.childrenNamed name spaces) :=
  forall₂_filter h.children name spaces

theorem descendantNamed? (h : l.Alike l') (name : String) (spaces : Option (List String)) :
    Option.Rel Alike (l.descendantNamed? name spaces) (l'.descendantNamed? name spaces) :=
  Lookup.rel_find? h.descendants fun _ _ hc => hc.hasName_eq name spaces

end Alike
end Located
end ServiceDescription.Xml
