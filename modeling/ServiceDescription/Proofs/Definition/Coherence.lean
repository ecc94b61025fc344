import ServiceDescription.Proofs.Definition.Reading
import ServiceDescription.Proofs.Schema.Detection
import ServiceDescription.Proofs.Schema.Entries

/-! References as pairs of a name and a namespace. Those that may be missing are kept as two fields
each: the base and the item of a complex type, the element and the type of a message part. In every
description both fields of a pair are there or neither is. Whether a part has one reference only is
up to its node, since an attribute for an element does not keep the one for a type from being
read. -/
namespace ServiceDescription
open Xml Schema Contract

/-- The namespace of a reference is there exactly if its name is. -/
def Paired (name space : Option String) : Prop := space = none ↔ name = none

lemma paired_map (reference : Option ExpandedName) :
    Paired (reference.map (·.localName)) (reference.map (·.space)) := by
  rw [Paired, Option.map_eq_none_iff, Option.map_eq_none_iff]

namespace Schema.ComplexType

structure Coherent (t : ComplexType) : Prop where
  base : Paired t.baseName t.baseSpace
  item : Paired t.itemName t.itemSpace

lemma coherent_ofDeclaration (l : Located) (space name : String) :
    (ofDeclaration l space name).Coherent where
  base := paired_map (base? l space)
  item := Iff.rfl

/-- An array gets both the name and the namespace of its item, and keeps its base. -/
lemma Detected.coherent {space : String} {t : ComplexType} {found : Bool × ComplexType}
    (hdetected : Detected space t found) (h : t.Coherent) : found.2.Coherent := by
  cases hdetected with
  | record => exact h
  | array hafter =>
    obtain ⟨item, itemSpace, hfields⟩ := hafter.fields
    rw [hfields]
    exact { base := h.base, item := by simp [Paired] }

lemma coherent_read (l : Located) (space : String) (name : Option String) :
    (read l space name).value.Coherent :=
  (detected_detection _ space).coherent (coherent_ofDeclaration l space (name.getD (l.attr "name")))

/-- All types of a types section, promoted ones too, have coherent references. Marking the elements
that refer to them does not touch these. -/
lemma coherent_of_mem_markReferences {strict : Bool} {types : Option Located} {t : ComplexType}
    (h : t ∈ (Catalog.empty.collected strict types).markReferences.complexTypes) : t.Coherent := by
  rw [Catalog.complexTypes_markReferences, Catalog.complexTypes_eq_entries, List.map_map] at h
  obtain ⟨s, -, rfl⟩ := List.mem_map.mp h
  have hread : s.type.Coherent := coherent_read s.node s.space (some s.name)
  exact { base := hread.base, item := hread.item }

end Schema.ComplexType

namespace Contract.Part

/-- The part refers to an element or to a type, but not to both. -/
def OneSided (p : Part) : Prop := p.elementName = none ∨ p.typeName = none

instance (p : Part) : Decidable p.OneSided := inferInstanceAs (Decidable (_ ∨ _))

/-- The references of a part, `l` being its node. -/
structure Coherent (l : Located) (p : Part) : Prop where
  elementPaired : Paired p.elementName p.elementSpace
  typePaired : Paired p.typeName p.typeSpace
  element : p.elementName = none ↔ l.attr? "element" = none
  type : p.typeName = none ↔ l.attr? "type" = none
  oneSided : p.OneSided ↔ l.attr? "element" = none ∨ l.attr? "type" = none

lemma map_reference?_eq_none_iff {β : Type} (l : Located) (attr space : String)
    (f : ExpandedName → β) : (reference? l attr space).map f = none ↔ l.attr? attr = none := by
  rw [reference?, Option.map_eq_none_iff, Option.map_eq_none_iff]

lemma coherent_ofNode (l : Located) (space : String) : Coherent l (ofNode l space) := by
  have helement : (ofNode l space).elementName = none ↔ l.attr? "element" = none :=
    map_reference?_eq_none_iff l "element" space _
  have htype : (ofNode l space).typeName = none ↔ l.attr? "type" = none :=
    map_reference?_eq_none_iff l "type" space _
  exact {
    elementPaired := paired_map (reference? l "element" space)
    typePaired := paired_map (reference? l "type" space)
    element := helement
    type := htype
    oneSided := or_congr helement htype }

end Contract.Part

namespace Definition

/-- Every definitions element is read to a description with coherent references. A part has
references of both kinds exactly if its node has both attributes. -/
theorem read_coherent (strict : Bool) (root : Located) :
    ∃ d : Definition, (read strict root).outcome = .ok d ∧
      (∀ t ∈ d.types.complexTypes, t.Coherent) ∧
      List.Forall₂ (fun l m => List.Forall₂ Part.Coherent (l.childrenNamed "part" none) m.parts)
        (root.childrenNamed "message" none) d.messages := by
  refine ⟨_, outcome_read strict root, ?_, ?_⟩
  · intro t ht
    exact ComplexType.coherent_of_mem_markReferences ht
  · rw [List.forall₂_map_right_iff, List.forall₂_same]
    intro l _
    show List.Forall₂ _ _ ((l.childrenNamed "part" none).map (Part.ofNode · _))
    rw [List.forall₂_map_right_iff, List.forall₂_same]
    exact fun m _ => Part.coherent_ofNode m _

/-- A part with an attribute for an element and one for a type. -/
def twoSidedMessage : Located := .root <|
  .plain "definitions" [("targetNamespace", "urn:t")] [.plain "message" [("name", "M")]
    [.plain "part" [("name", "p"), ("element", "Order"), ("type", "Row")] []]]

/-- Its description has the part with a reference of either kind. -/
theorem read_twoSidedMessage : ∃ d : Definition, (read false twoSidedMessage).outcome = .ok d ∧
    ∃ m ∈ d.messages, ∃ p ∈ m.parts, ¬p.OneSided := by
  refine ⟨_, outcome_read false twoSidedMessage, ?_⟩
  decide +kernel

end Definition
end ServiceDescription
