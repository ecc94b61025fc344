import ServiceDescription.Proofs.Lookup
import ServiceDescription.Proofs.Schema.Collected

/-! Looking up types by name, and marking the elements that refer to one. Marking changes no name
and no namespace, so what is found before it is found after it. -/
namespace ServiceDescription.Schema
open Xml

namespace Catalog

/-- A type with the references of its members marked. -/
def marked (c : Catalog) (t : ComplexType) : ComplexType :=
  { t with elements := t.elements.map c.mark }

/-- All elements of a catalog, those at the top first. -/
def heldElements (c : Catalog) : List Element := c.elements ++ c.complexTypes.flatMap (·.elements)

/-- Marking an element changes at most its mark. -/
theorem mark_eq (c : Catalog) (e : Element) :
    c.mark e = { e with isComplex := (c.mark e).isComplex } := by
  rw [mark]
  split <;> rfl

@[simp] lemma typeName_mark (c : Catalog) (e : Element) : (c.mark e).typeName = e.typeName := by
  rw [mark_eq]

@[simp] lemma typeSpace_mark (c : Catalog) (e : Element) : (c.mark e).typeSpace = e.typeSpace := by
  rw [mark_eq]

@[simp] lemma isArray_mark (c : Catalog) (e : Element) : (c.mark e).isArray = e.isArray := by
  rw [mark_eq]

@[simp] lemma maxOccurs_mark (c : Catalog) (e : Element) : (c.mark e).maxOccurs = e.maxOccurs := by
  rw [mark_eq]

theorem complexTypes_markReferences (c : Catalog) :
    c.markReferences.complexTypes = c.complexTypes.map c.marked := rfl

theorem elements_markReferences (c : Catalog) :
    c.markReferences.elements = c.elements.map c.mark := rfl

theorem heldElements_markReferences (c : Catalog) :
    c.markReferences.heldElements = c.heldElements.map c.mark := by
  rw [heldElements, elements_markReferences, complexTypes_markReferences, heldElements,
    List.map_append, List.flatMap_map, List.map_flatMap]
  rfl

lemma complexType?_none (c : Catalog) (name : String) :
    c.complexType? name none = c.complexTypes.find? (·.name = name) := by
  cases h : c.complexTypes.find? (fun t => t.name = name) <;> simp [complexType?, h]

theorem complexType?_markReferences (c : Catalog) (name : String) (space : Option String) :
    c.markReferences.complexType? name space = (c.complexType? name space).map c.marked := by
  have hname : ((fun t : ComplexType => decide (t.name = name)) ∘ c.marked) =
      fun t => decide (t.name = name) := rfl
  rw [complexType?, complexTypes_markReferences, List.find?_map, hname, complexType?,
    Option.filter_map]
  rfl

theorem mark_markReferences (c : Catalog) : c.markReferences.mark = c.mark := by
  funext e
  rw [mark, mark, complexType?_markReferences, Option.isSome_map]

theorem marked_markReferences (c : Catalog) : c.markReferences.marked = c.marked := by
  funext t
  rw [marked, mark_markReferences, marked]

/-- In a catalog without two types of one name every type is found by name and namespace. -/
theorem complexType?_of_mem {c : Catalog} (h : c.typeNames.Nodup) {t : ComplexType}
    (ht : t ∈ c.complexTypes) : c.complexType? t.name (some t.space) = some t := by
  have hfind : c.complexTypes.find? (fun u => u.name = t.name) = some t :=
    Lookup.find?_of_nodup h ht
  simp [complexType?, hfind]

/-- A name that is taken is found when the namespace is left open. -/
theorem exists_complexType? {c : Catalog} {name : String} (h : name ∈ c.typeNames) :
    ∃ t ∈ c.complexTypes, t.name = name ∧ c.complexType? name none = some t := by
  obtain ⟨t, ht, hname⟩ := List.mem_map.mp h
  cases hf : c.complexTypes.find? (fun u => u.name = name) with
  | none => exact absurd hname (by simpa using List.find?_eq_none.mp hf t ht)
  | some u =>
    exact ⟨u, List.mem_of_find?_eq_some hf, by simpa using List.find?_some hf,
      by simp [complexType?, hf]⟩

/-- A lookup by name and namespace is the lookup by name, as far as the namespace is right. -/
theorem complexType?_some_eq_some_iff {c : Catalog} {name space : String} {t : ComplexType} :
    c.complexType? name (some space) = some t ↔
      c.complexType? name none = some t ∧ t.space = space := by
  simp [complexType?, Option.filter_eq_some_iff]

lemma complexType?_some_eq_none {c : Catalog} {name space : String} {t : ComplexType}
    (h : c.complexType? name none = some t) (hspace : t.space ≠ space) :
    c.complexType? name (some space) = none := by
  refine Option.eq_none_iff_forall_ne_some.mpr fun u hu => hspace ?_
  obtain ⟨hname, hu⟩ := complexType?_some_eq_some_iff.mp hu
  rw [← Option.some.inj (hname.symm.trans h), hu]

lemma mem_of_complexType? {c : Catalog} {name : String} {t : ComplexType}
    (h : c.complexType? name none = some t) : t ∈ c.complexTypes :=
  List.mem_of_find?_eq_some (Option.filter_eq_some_iff.mp h).1

end Catalog
end ServiceDescription.Schema
