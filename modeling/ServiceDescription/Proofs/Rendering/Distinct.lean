import Mathlib.Data.List.Basic
import ServiceDescription.Rendering.Record

/-! Different components have different JSON records. Every field of a component is in its record,
what is missing is told from what is empty, and the order of lists is kept. Only the set of imported
namespaces is written without the order in which it was filled, and whether a catalog is frozen is
not written at all. -/
namespace ServiceDescription
open Json

namespace Json
variable {α : Type} {f : α → Json}

theorem ofList_injective (hf : Function.Injective f) : Function.Injective (ofList f) := by
  intro as bs h
  exact List.map_injective_iff.mpr hf (Json.array.inj h)

/-- Nothing is told from something, where nothing is not the record of anything. -/
theorem ofOption_injective (hf : Function.Injective f) (hnull : ∀ a, f a ≠ null) :
    Function.Injective (ofOption f) := by
  intro o o' h
  cases o with
  | none =>
    cases o' with
    | none => rfl
    | some b => exact absurd h.symm (hnull b)
  | some a =>
    cases o' with
    | none => exact absurd h (hnull a)
    | some b => exact congrArg some (hf h)

lemma text_injective : Function.Injective text := fun _ _ h => Json.text.inj h

lemma optionalText_injective : Function.Injective (ofOption text) :=
  ofOption_injective text_injective fun _ => Json.noConfusion

lemma texts_injective : Function.Injective (ofList text) := ofList_injective text_injective

end Json

/-- Two lists are the same when sorted just if they have the same members, equally often. -/
theorem mergeSort_eq_iff {as bs : List String} :
    as.mergeSort (· ≤ ·) = bs.mergeSort (· ≤ ·) ↔ as.Perm bs := by
  have hsorted : ∀ cs : List String, (cs.mergeSort (· ≤ ·)).Pairwise (· ≤ ·) := by
    intro cs
    have hpairs := @List.pairwise_mergeSort String (· ≤ ·)
      (fun a b c => by simpa using String.le_trans) (fun a b => by simpa using String.le_total a b)
      cs
    simpa using hpairs
  constructor
  · intro h
    have hperm := List.mergeSort_perm as fun a b : String => decide (a ≤ b)
    rw [h] at hperm
    exact hperm.symm.trans (List.mergeSort_perm bs _)
  · intro h
    apply List.Perm.eq_of_pairwise
    · intro a b _ _ hab hba
      exact String.le_antisymm hab hba
    · exact hsorted as
    · exact hsorted bs
    · exact (List.mergeSort_perm as _).trans (h.trans (List.mergeSort_perm bs _).symm)

attribute [ext] Definition

namespace Schema

attribute [ext] Element ComplexType SimpleType Catalog

theorem Element.toJson_injective : Function.Injective Element.toJson := by
  intro e e' h
  simp only [toJson, object.injEq, List.cons.injEq, Prod.mk.injEq, text.injEq, Json.bool.injEq,
    number.injEq, true_and, and_true] at h
  obtain ⟨hname, hspace, htypeName, htypeSpace, hcomplex, hmin, hmax, -, harray, hnillable⟩ := h
  exact Element.ext hname hspace htypeName htypeSpace hcomplex hmin hmax harray hnillable

theorem ComplexType.toJson_injective : Function.Injective ComplexType.toJson := by
  intro t t' h
  simp only [toJson, object.injEq, List.cons.injEq, Prod.mk.injEq, text.injEq, Json.bool.injEq,
    (ofList_injective Element.toJson_injective).eq_iff, optionalText_injective.eq_iff, true_and,
    and_true] at h
  obtain ⟨hname, hspace, helements, hbaseName, hbaseSpace, harray, hitemName, hitemSpace⟩ := h
  exact ComplexType.ext hname hspace helements hbaseName hbaseSpace harray hitemName hitemSpace

theorem SimpleType.toJson_injective : Function.Injective SimpleType.toJson := by
  intro t t' h
  simp only [toJson, object.injEq, List.cons.injEq, Prod.mk.injEq, text.injEq,
    texts_injective.eq_iff, true_and, and_true] at h
  obtain ⟨hname, hspace, hbaseName, hbaseSpace, hvalues⟩ := h
  exact SimpleType.ext hname hspace hbaseName hbaseSpace hvalues

/-- Catalogs of the same content. The imported namespaces are a set, so their order does not
count. -/
structure Catalog.Same (c c' : Catalog) : Prop where
  importedNamespaces : c.importedNamespaces.Perm c'.importedNamespaces
  others : { c with importedNamespaces := c'.importedNamespaces } = c'

theorem Catalog.toJson_eq_iff {c c' : Catalog} (hfrozen : c.frozen = c'.frozen) :
    c.toJson = c'.toJson ↔ c.Same c' := by
  have hcomplex : Function.Injective fun t : ComplexType => (t.name, t.toJson) := by
    intro t t' h
    exact ComplexType.toJson_injective (Prod.mk.inj h).2
  have hsimple : Function.Injective fun t : SimpleType => (t.name, t.toJson) := by
    intro t t' h
    exact SimpleType.toJson_injective (Prod.mk.inj h).2
  have hfields : c.toJson = c'.toJson ↔
      c.complexTypes = c'.complexTypes ∧ c.simpleTypes = c'.simpleTypes ∧
        c.elements = c'.elements ∧ c.importedNamespaces.Perm c'.importedNamespaces ∧
        c.schemas = c'.schemas := by
    simp only [toJson, object.injEq, List.cons.injEq, Prod.mk.injEq,
      (List.map_injective_iff.mpr hcomplex).eq_iff, (List.map_injective_iff.mpr hsimple).eq_iff,
      (ofList_injective Element.toJson_injective).eq_iff, texts_injective.eq_iff,
      mergeSort_eq_iff, true_and, and_true]
  rw [hfields]
  constructor
  · rintro ⟨hcomplexTypes, hsimpleTypes, helements, himported, hschemas⟩
    exact ⟨himported, Catalog.ext hcomplexTypes hsimpleTypes helements rfl hschemas hfrozen⟩
  · rintro ⟨himported, hothers⟩
    rw [← hothers]
    exact ⟨rfl, rfl, rfl, himported, rfl⟩

end Schema

namespace Contract

attribute [ext] Part Message OperationMessage Operation Interface
attribute [ext] Header BoundMessage BoundOperation Binding Port Service

theorem Part.toJson_injective : Function.Injective Part.toJson := by
  intro p p' h
  simp only [toJson, object.injEq, List.cons.injEq, Prod.mk.injEq, text.injEq,
    optionalText_injective.eq_iff, true_and, and_true] at h
  obtain ⟨hname, helementName, helementSpace, htypeName, htypeSpace⟩ := h
  exact Part.ext hname helementName helementSpace htypeName htypeSpace

theorem Message.toJson_injective : Function.Injective Message.toJson := by
  intro m m' h
  simp only [toJson, object.injEq, List.cons.injEq, Prod.mk.injEq, text.injEq,
    (ofList_injective Part.toJson_injective).eq_iff, true_and, and_true] at h
  obtain ⟨hname, hparts⟩ := h
  exact Message.ext hname hparts

theorem OperationMessage.toJson_injective : Function.Injective OperationMessage.toJson := by
  intro m m' h
  simp only [toJson, object.injEq, List.cons.injEq, Prod.mk.injEq, text.injEq, true_and,
    and_true] at h
  obtain ⟨hname, hmessageName, hmessageSpace⟩ := h
  exact OperationMessage.ext hname hmessageName hmessageSpace

theorem Operation.toJson_injective : Function.Injective Operation.toJson := by
  have hmessage := OperationMessage.toJson_injective
  have hoptional := ofOption_injective hmessage fun _ => Json.noConfusion
  intro o o' h
  simp only [toJson, object.injEq, List.cons.injEq, Prod.mk.injEq, text.injEq, hoptional.eq_iff,
    (ofList_injective hmessage).eq_iff, true_and, and_true] at h
  obtain ⟨hname, hinput, houtput, hfaults, hdocumentation, hdeclaredName⟩ := h
  exact Operation.ext hname hinput houtput hfaults hdocumentation hdeclaredName

theorem Interface.toJson_injective : Function.Injective Interface.toJson := by
  intro i i' h
  simp only [toJson, object.injEq, List.cons.injEq, Prod.mk.injEq, text.injEq,
    (ofList_injective Operation.toJson_injective).eq_iff, true_and, and_true] at h
  obtain ⟨hname, hoperations⟩ := h
  exact Interface.ext hname hoperations

theorem Header.toJson_injective : Function.Injective Header.toJson := by
  intro x x' h
  simp only [toJson, object.injEq, List.cons.injEq, Prod.mk.injEq, text.injEq,
    optionalText_injective.eq_iff, true_and, and_true] at h
  obtain ⟨hmessageName, hmessageSpace, hpart, huse, hencodingStyle, hspace⟩ := h
  exact Header.ext hmessageName hmessageSpace hpart huse hencodingStyle hspace

theorem BoundMessage.toJson_injective : Function.Injective BoundMessage.toJson := by
  -- a list of parts that is missing is null, and an empty one is an array
  have hparts := ofOption_injective texts_injective fun _ => Json.noConfusion
  intro m m' h
  simp only [toJson, object.injEq, List.cons.injEq, Prod.mk.injEq, text.injEq,
    optionalText_injective.eq_iff, hparts.eq_iff,
    (ofList_injective Header.toJson_injective).eq_iff, true_and, and_true] at h
  obtain ⟨hname, huse, hencodingStyle, hspace, hparts, hheaders⟩ := h
  exact BoundMessage.ext hname huse hencodingStyle hspace hparts hheaders

theorem BoundOperation.toJson_injective : Function.Injective BoundOperation.toJson := by
  have hmessage := BoundMessage.toJson_injective
  have hoptional := ofOption_injective hmessage fun _ => Json.noConfusion
  intro o o' h
  simp only [toJson, object.injEq, List.cons.injEq, Prod.mk.injEq, text.injEq, hoptional.eq_iff,
    (ofList_injective hmessage).eq_iff, true_and, and_true] at h
  obtain ⟨hname, haction, hstyle, hinput, houtput, hfaults, hdeclaredName⟩ := h
  exact BoundOperation.ext hname haction hstyle hinput houtput hfaults hdeclaredName

lemma SoapVersion.label_injective : Function.Injective SoapVersion.label := by
  intro v v' h
  cases v <;> cases v' <;> first | rfl | exact absurd h (by decide)

theorem Binding.toJson_injective : Function.Injective Binding.toJson := by
  intro b b' h
  simp only [toJson, object.injEq, List.cons.injEq, Prod.mk.injEq, text.injEq,
    SoapVersion.label_injective.eq_iff, (ofList_injective BoundOperation.toJson_injective).eq_iff,
    true_and, and_true] at h
  obtain ⟨hname, hinterfaceName, hinterfaceSpace, htransport, hversion, hstyle, hoperations⟩ := h
  exact Binding.ext hname hinterfaceName hinterfaceSpace htransport hversion hstyle hoperations

theorem Port.toJson_injective : Function.Injective Port.toJson := by
  intro p p' h
  simp only [toJson, object.injEq, List.cons.injEq, Prod.mk.injEq, text.injEq, true_and,
    and_true] at h
  obtain ⟨hname, hbindingName, hbindingSpace, hlocation⟩ := h
  exact Port.ext hname hbindingName hbindingSpace hlocation

theorem Service.toJson_injective : Function.Injective Service.toJson := by
  intro s s' h
  simp only [toJson, object.injEq, List.cons.injEq, Prod.mk.injEq, text.injEq,
    (ofList_injective Port.toJson_injective).eq_iff, true_and, and_true] at h
  obtain ⟨hname, hdocumentation, hports⟩ := h
  exact Service.ext hname hdocumentation hports

end Contract

namespace Definition

/-- Descriptions that are equal in everything, their imported namespaces taken as sets. -/
structure Same (d d' : Definition) : Prop where
  types : d.types.Same d'.types
  others : { d with types := d'.types } = d'

theorem toJson_eq_iff {d d' : Definition} (hfrozen : d.types.frozen = d'.types.frozen) :
    d.toJson = d'.toJson ↔ d.Same d' := by
  have hnamespace : Function.Injective fun n : String × String => (n.1, text n.2) := by
    intro n n' h
    obtain ⟨hpre, huri⟩ := Prod.mk.inj h
    exact Prod.ext hpre (text_injective huri)
  have hfields : d.toJson = d'.toJson ↔
      d.targetNamespace = d'.targetNamespace ∧ d.namespaces = d'.namespaces ∧
        d.types.Same d'.types ∧ d.messages = d'.messages ∧ d.interfaces = d'.interfaces ∧
        d.bindings = d'.bindings ∧ d.services = d'.services := by
    simp only [toJson, object.injEq, List.cons.injEq, Prod.mk.injEq, text.injEq,
      (List.map_injective_iff.mpr hnamespace).eq_iff, Schema.Catalog.toJson_eq_iff hfrozen,
      (ofList_injective Contract.Message.toJson_injective).eq_iff,
      (ofList_injective Contract.Interface.toJson_injective).eq_iff,
      (ofList_injective Contract.Binding.toJson_injective).eq_iff,
      (ofList_injective Contract.Service.toJson_injective).eq_iff, true_and, and_true]
  rw [hfields]
  constructor
  · rintro ⟨hspace, hnamespaces, htypes, hmessages, hinterfaces, hbindings, hservices⟩
    exact ⟨htypes, Definition.ext hspace hnamespaces rfl hmessages hinterfaces hbindings hservices⟩
  · rintro ⟨htypes, hothers⟩
    rw [← hothers]
    exact ⟨rfl, rfl, htypes, rfl, rfl, rfl, rfl⟩

end Definition
end ServiceDescription
