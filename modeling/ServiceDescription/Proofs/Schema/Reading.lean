import ServiceDescription.Proofs.Lookup
import ServiceDescription.Schema.Section

/-! What a component says is what its node declares. Looking at a type as an array and marking the
references may change the type and the flags of a member, but not its name, its occurrences or the
reference to an inline body. -/
namespace ServiceDescription.Schema
open Xml

namespace Element

lemma inlineName_ne_empty (l : Located) : inlineName l ≠ "" := by
  intro h
  have hl := congrArg String.toList h
  simp [inlineName] at hl

/-- The element is the one that the node declares in a schema with the namespace `uri`. An inline
body decides the type; otherwise a type attribute does, where it gives a name. -/
structure Declares (uri : String) (l : Located) (e : Element) : Prop where
  name : e.name = l.attr "name"
  space : e.space = uri
  minOccurs : e.minOccurs = Occurs.parse 1 (l.attr? "minOccurs")
  maxOccurs : e.maxOccurs = Occurs.parse 1 (l.attr? "maxOccurs")
  nillable : e.isNillable = ["true", "1"].contains (Text.trim (l.attr "nillable"))
  inline : (inlineBody? l).isSome →
    e.typeName = inlineName l ∧ e.typeSpace = uri ∧ e.isComplex = true
  referred : inlineBody? l = none → ∀ type, reference? l "type" uri = some type →
    type.localName ≠ "" → e.typeName = type.localName ∧ e.typeSpace = type.space

/-- Before the references are marked only inline bodies make an element complex. -/
structure ReadFrom (uri : String) (l : Located) (e : Element) : Prop extends Declares uri l e where
  flagged : e.isComplex = (inlineBody? l).isSome

theorem readFrom_ofDeclaration (uri : String) (l : Located) :
    ReadFrom uri l (ofDeclaration l uri) where
  name := by rw [ofDeclaration]
  space := by rw [ofDeclaration]
  minOccurs := by rw [ofDeclaration]
  maxOccurs := by rw [ofDeclaration]
  nillable := by rw [ofDeclaration]
  inline h := by simp [ofDeclaration, h]
  referred h type ht _ := by simp [ofDeclaration, h, ht]
  flagged := by rw [ofDeclaration]

variable {uri : String} {l : Located} {e : Element}

theorem ReadFrom.asItem (h : ReadFrom uri l e) (item itemSpace : String) :
    ReadFrom uri l (e.asItem item itemSpace) := by
  by_cases he : e.typeName = ""
  · rw [Element.asItem, if_pos he]
    refine { h with inline := fun hi => ?_, referred := fun hi type ht hne => ?_ }
    · exact absurd ((h.inline hi).1.symm.trans he) (inlineName_ne_empty l)
    · exact absurd ((h.referred hi type ht hne).1.symm.trans he) hne
  · rw [Element.asItem, if_neg he]
    exact { h with }

theorem Declares.mark (h : Declares uri l e) (c : Catalog) : Declares uri l (c.mark e) := by
  rw [Catalog.mark]
  split
  · exact { h with inline := fun hi => ⟨(h.inline hi).1, (h.inline hi).2.1, rfl⟩ }
  · exact h

end Element

namespace ComplexType

/-- A type looked at as an array keeps its members, except that the one member of a named array
becomes its item. -/
theorem elements_detectArray (t : ComplexType) (space : String) :
    (t.detectArray space).elements = t.elements ∨
      ∃ e item, t.elements = [e] ∧ (t.detectArray space).elements = [e.asItem item space] := by
  rw [detectArray, asArray?]
  cases hn : namedItem? t.name with
  | none =>
    left
    cases hf : t.elements.find? (fun e => e.isArray && e.typeName ≠ "") <;> simp [withItem]
  | some item =>
    match he : t.elements with
    | [] => left; simp [he]
    | [e] => right; exact ⟨e, item, rfl, by simp [withItem]⟩
    | e :: f :: es => left; simp [he]

@[simp] theorem name_detectArray (t : ComplexType) (space : String) :
    (t.detectArray space).name = t.name := by
  simp only [detectArray, asArray?, withItem]
  split
  · split <;> rfl
  · cases t.elements.find? _ <;> rfl

@[simp] theorem space_detectArray (t : ComplexType) (space : String) :
    (t.detectArray space).space = t.space := by
  simp only [detectArray, asArray?, withItem]
  split
  · split <;> rfl
  · cases t.elements.find? _ <;> rfl

@[simp] theorem name_read (l : Located) (space : String) (name : Option String) :
    (read l space name).value.name = name.getD (l.attr "name") :=
  name_detectArray _ space

@[simp] theorem space_read (l : Located) (space : String) (name : Option String) :
    (read l space name).value.space = space :=
  space_detectArray _ space

/-- A type has exactly the members of its node, in the order of their declaration. -/
theorem readFrom_read (l : Located) (uri : String) (name : Option String) :
    List.Forall₂ (Element.ReadFrom uri) (memberNodes l) (read l uri name).value.elements := by
  have hdeclared : List.Forall₂ (Element.ReadFrom uri) (memberNodes l)
      ((memberNodes l).map (Element.ofDeclaration · uri)) := by
    rw [List.forall₂_map_right_iff, List.forall₂_same]
    exact fun m _ => Element.readFrom_ofDeclaration uri m
  show List.Forall₂ _ _ (detectArray (ofDeclaration l uri (name.getD (l.attr "name"))) uri).elements
  rcases elements_detectArray (ofDeclaration l uri (name.getD (l.attr "name"))) uri with
    h | ⟨e, item, hone, h⟩
  · rw [h]
    exact hdeclared
  · have hmap : (memberNodes l).map (Element.ofDeclaration · uri) = [e] := hone
    rw [hmap] at hdeclared
    obtain ⟨m, ms, hm, hrest, hnodes⟩ := List.forall₂_cons_right_iff.mp hdeclared
    rw [h, hnodes]
    exact .cons (hm.asItem item uri) hrest

lemma exists_member_of_mem_read {l : Located} {uri : String} {name : Option String} {e : Element}
    (h : e ∈ (read l uri name).value.elements) :
    ∃ m ∈ memberNodes l, Element.ReadFrom uri m e :=
  Lookup.exists_of_mem_right (readFrom_read l uri name) h

end ComplexType
end ServiceDescription.Schema
