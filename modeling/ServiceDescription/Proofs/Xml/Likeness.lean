import ServiceDescription.Proofs.Xml.Alike
import ServiceDescription.Proofs.Xml.Position

/-! Nodes that reading cannot tell apart. A relation between nodes is a likeness when related nodes
agree in all that is asked of a single node, and when whatever is looked up from them is related in
its turn. Trees may well differ in nodes that nothing looks for. -/
namespace ServiceDescription.Xml

/-- The local names under which anything is looked up. -/
def constructNames : List String :=
  ["types", "schema", "import", "complexType", "simpleType", "element", "sequence", "all",
    "complexContent", "simpleContent", "extension", "restriction", "enumeration", "message", "part",
    "portType", "operation", "input", "output", "fault", "documentation", "binding", "body",
    "header", "service", "port", "address"]

/-- A relation whose nodes say the same, and lead to such nodes by every name of a construct. Only a
simple type is searched in depth, and only documentation for its text. -/
class Likeness (R : Located → Located → Prop) : Prop where
  space_eq {l l' : Located} (h : R l l') : l.space = l'.space
  attr?_eq {l l' : Located} (h : R l l') (name : String) (hname : ⟨"", name⟩ ∉ referenceNames) :
    l.attr? name = l'.attr? name
  rel_attr? {l l' : Located} (h : R l l') (name : String) (hname : ⟨"", name⟩ ∈ referenceNames) :
    Option.Rel (QualifiedName.Same l.scope l'.scope) (l.attr? name) (l'.attr? name)
  childrenNamed {l l' : Located} (h : R l l') (name : String) (hname : name ∈ constructNames)
    (spaces : Option (List String)) :
    List.Forall₂ R (l.childrenNamed name spaces) (l'.childrenNamed name spaces)
  restriction? {l l' : Located} (h : R l l') (hl : l.localName = "simpleType") :
    Option.Rel R (l.descendantNamed? "restriction" none) (l'.descendantNamed? "restriction" none)
  characterData_eq {l l' : Located} (h : R l l') (hl : l.localName = "documentation") :
    l.node.characterData = l'.node.characterData

namespace Likeness

instance : Likeness Located.Alike where
  space_eq h := h.space_eq
  attr?_eq h := h.attr?_eq
  rel_attr? h _ hname := h.rel_attrNamed? hname
  childrenNamed h name _ := h.childrenNamed name
  restriction? h _ := h.descendantNamed? "restriction" none
  characterData_eq h _ := Node.Match.characterData_eq h

variable {R : Located → Located → Prop} [Likeness R] {l l' : Located}

lemma attr_eq (h : R l l') (name : String) (hname : ⟨"", name⟩ ∉ referenceNames) :
    l.attr name = l'.attr name := by
  rw [Located.attr, Located.attr, attr?_eq h name hname]

theorem childNamed? (h : R l l') (name : String) (hname : name ∈ constructNames)
    (spaces : Option (List String)) :
    Option.Rel R (l.childNamed? name spaces) (l'.childNamed? name spaces) := by
  rw [Located.childNamed?_eq_head?, Located.childNamed?_eq_head?]
  exact Lookup.rel_head? (childrenNamed h name hname spaces)

omit [Likeness R] in
/-- What is looked up by the first of several names that leads to it. -/
lemma rel_findSome? (names : List String) (hnames : ∀ name ∈ names, name ∈ constructNames)
    {f g : String → Option Located}
    (hfg : ∀ name ∈ constructNames, Option.Rel R (f name) (g name)) :
    Option.Rel R (names.findSome? f) (names.findSome? g) := by
  have hself : List.Forall₂ (fun name name' => name = name' ∧ name ∈ constructNames) names names :=
    List.forall₂_same.mpr fun name hname => ⟨rfl, hnames name hname⟩
  refine Lookup.rel_findSome? hself ?_
  rintro name _ ⟨rfl, hname⟩
  exact hfg name hname

/-- The nodes found have the name that they are looked up by. -/
lemma forall₂_named (h : R l l') (name : String) (hname : name ∈ constructNames)
    (spaces : Option (List String)) :
    List.Forall₂ (fun c c' => c.localName = name ∧ R c c') (l.childrenNamed name spaces)
      (l'.childrenNamed name spaces) :=
  (List.forall₂_and_left _ _).mpr
    ⟨fun _ hc => Located.localName_of_named hc, childrenNamed h name hname spaces⟩

theorem documentation_eq (h : R l l') : l.documentation = l'.documentation := by
  rw [Located.documentation, Located.documentation, Located.childNamed?_eq_head?,
    Located.childNamed?_eq_head?]
  have hrel := Lookup.rel_head? (forall₂_named h "documentation" (by decide) none)
  obtain ⟨hd, hd'⟩ | ⟨d, d', hd, hd', hname, hdd'⟩ := Lookup.cases_of_rel hrel
  · rw [hd, hd']
  · rw [hd, hd']
    exact congrArg Text.trim (characterData_eq hdd' hname)

end Likeness
end ServiceDescription.Xml
