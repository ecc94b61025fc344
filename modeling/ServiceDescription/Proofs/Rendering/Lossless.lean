import ServiceDescription.Proofs.Definition.Reading
import ServiceDescription.Proofs.Rendering.Distinct
import ServiceDescription.Proofs.Rendering.RoundTrip
import ServiceDescription.Proofs.Schema.Entries
import ServiceDescription.Proofs.Schema.History
import ServiceDescription.Proofs.Schema.Occurs

/-! The JSON text of a description loses nothing. A description that has been read has distinct names
in its tables and no number that is too long, so its text is read back to its record; and as records
of different descriptions differ, so do the texts. -/
namespace ServiceDescription
open Json Xml

namespace Json
variable {α : Type} {f : α → Json}

attribute [simp] Readable.null Readable.bool Readable.text

lemma readable_ofList {as : List α} (h : ∀ a ∈ as, Readable (f a)) : Readable (ofList f as) := by
  refine .array fun item hitem => ?_
  obtain ⟨a, ha, rfl⟩ := List.mem_map.mp hitem
  exact h a ha

lemma readable_ofOption {o : Option α} (h : ∀ a, Readable (f a)) : Readable (ofOption f o) := by
  cases o with
  | none => exact .null
  | some a => exact h a

@[simp] lemma readable_texts (ts : List String) : Readable (ofList text ts) :=
  readable_ofList fun t _ => .text t

@[simp] lemma readable_optionalText (t : Option String) : Readable (ofOption text t) :=
  readable_ofOption .text

/-- A table has one field for each member. -/
lemma readable_table {key : α → String} {as : List α} (hkeys : (as.map key).Nodup)
    (h : ∀ a ∈ as, Readable (f a)) : Readable (object (as.map fun a => (key a, f a))) := by
  refine .object ?_ ?_
  · rwa [List.map_map]
  · intro field hfield
    obtain ⟨a, ha, rfl⟩ := List.mem_map.mp hfield
    exact h a ha

end Json

namespace Schema

/-- The numbers of the element are not too long. -/
def Element.Short (e : Element) : Prop :=
  e.minOccurs.natAbs < 10 ^ Text.maxDigits ∧ e.maxOccurs.natAbs < 10 ^ Text.maxDigits

theorem Element.readable_toJson {e : Element} (h : e.Short) : Readable e.toJson :=
  .object (by simp) (by simp [Readable.number h.1, Readable.number h.2])

theorem ComplexType.readable_toJson {t : ComplexType} (h : ∀ e ∈ t.elements, e.Short) :
    Readable t.toJson := by
  have helements : Readable (ofList Element.toJson t.elements) :=
    readable_ofList fun e he => Element.readable_toJson (h e he)
  exact .object (by simp) (by simp [helements])

theorem SimpleType.readable_toJson (t : SimpleType) : Readable t.toJson :=
  .object (by simp) (by simp)

namespace Catalog

/-- The catalog can be written as tables that are read back. -/
structure Tabular (c : Catalog) : Prop where
  typeNames : c.typeNames.Nodup
  simpleTypeNames : (c.simpleTypes.map (·.name)).Nodup
  short : ∀ e ∈ c.heldElements, e.Short

theorem Tabular.readable_toJson {c : Catalog} (h : c.Tabular) : Readable c.toJson := by
  have hmembers : ∀ t ∈ c.complexTypes, ∀ e ∈ t.elements, e.Short := by
    intro t ht e he
    exact h.short e (List.mem_append_right _ (List.mem_flatMap.mpr ⟨t, ht, he⟩))
  have htypes : Readable (object (c.complexTypes.map fun t => (t.name, t.toJson))) :=
    readable_table h.typeNames fun t ht => ComplexType.readable_toJson (hmembers t ht)
  have hsimple : Readable (object (c.simpleTypes.map fun t => (t.name, t.toJson))) :=
    readable_table h.simpleTypeNames fun t _ => SimpleType.readable_toJson t
  have helements : Readable (ofList Element.toJson c.elements) :=
    readable_ofList fun e he => Element.readable_toJson (h.short e (List.mem_append_left _ he))
  exact .object (by simp) (by simp [htypes, hsimple, helements])

/-- The catalog of every types section is tabular. -/
theorem tabular_addTypes (types : Option Located) (strict : Bool) :
    (empty.collected strict types).markReferences.Tabular where
  typeNames := by
    rw [typeNames_markReferences]
    exact nodup_typeNames_collected types strict
  simpleTypeNames := by
    have hfilled := filledWith_empty.insertAll (sectionContents strict types)
    have hsimple : (empty.collected strict types).markReferences.simpleTypes =
        (empty.insertAll (sectionContents strict types)).simpleTypes := rfl
    rw [hsimple, hfilled.simpleTypes]
    exact nodup_firsts _ _ _
  short := by
    intro marked hmarked
    rw [heldElements_markReferences] at hmarked
    obtain ⟨e, he, rfl⟩ := List.mem_map.mp hmarked
    obtain ⟨n, -, hread⟩ := Lookup.exists_of_mem_right (readFrom_heldElements types strict) he
    have hdeclared := hread.toDeclares.mark (empty.collected strict types)
    unfold Element.Short
    rw [hdeclared.minOccurs, hdeclared.maxOccurs]
    exact ⟨Occurs.natAbs_parse_lt _, Occurs.natAbs_parse_lt _⟩

end Catalog
end Schema

namespace Contract

theorem Part.readable_toJson (p : Part) : Readable p.toJson := .object (by simp) (by simp)

theorem Message.readable_toJson (m : Message) : Readable m.toJson := by
  have hparts : Readable (ofList Part.toJson m.parts) :=
    readable_ofList fun p _ => p.readable_toJson
  exact .object (by simp) (by simp [hparts])

theorem OperationMessage.readable_toJson (m : OperationMessage) : Readable m.toJson :=
  .object (by simp) (by simp)

theorem Operation.readable_toJson (o : Operation) : Readable o.toJson := by
  have hmessage : ∀ m, Readable (ofOption OperationMessage.toJson m) :=
    fun m => readable_ofOption OperationMessage.readable_toJson
  have hfaults : Readable (ofList OperationMessage.toJson o.faults) :=
    readable_ofList fun m _ => m.readable_toJson
  exact .object (by simp) (by simp [hmessage, hfaults])

theorem Interface.readable_toJson (i : Interface) : Readable i.toJson := by
  have hoperations : Readable (ofList Operation.toJson i.operations) :=
    readable_ofList fun o _ => o.readable_toJson
  exact .object (by simp) (by simp [hoperations])

theorem Header.readable_toJson (h : Header) : Readable h.toJson := .object (by simp) (by simp)

theorem BoundMessage.readable_toJson (m : BoundMessage) : Readable m.toJson := by
  have hparts : Readable (ofOption (ofList text) m.parts) := readable_ofOption readable_texts
  have hheaders : Readable (ofList Header.toJson m.headers) :=
    readable_ofList fun h _ => h.readable_toJson
  exact .object (by simp) (by simp [hparts, hheaders])

theorem BoundOperation.readable_toJson (o : BoundOperation) : Readable o.toJson := by
  have hmessage : ∀ m, Readable (ofOption BoundMessage.toJson m) :=
    fun m => readable_ofOption BoundMessage.readable_toJson
  have hfaults : Readable (ofList BoundMessage.toJson o.faults) :=
    readable_ofList fun m _ => m.readable_toJson
  exact .object (by simp) (by simp [hmessage, hfaults])

theorem Binding.readable_toJson (b : Binding) : Readable b.toJson := by
  have hoperations : Readable (ofList BoundOperation.toJson b.operations) :=
    readable_ofList fun o _ => o.readable_toJson
  exact .object (by simp) (by simp [hoperations])

theorem Port.readable_toJson (p : Port) : Readable p.toJson := .object (by simp) (by simp)

theorem Service.readable_toJson (s : Service) : Readable s.toJson := by
  have hports : Readable (ofList Port.toJson s.ports) :=
    readable_ofList fun p _ => p.readable_toJson
  exact .object (by simp) (by simp [hports])

end Contract

/-- No prefix is visible twice. -/
lemma Xml.Scope.nodup_visible (scope : Scope) : (scope.visible.map (·.1)).Nodup := by
  induction scope with
  | nil => exact List.nodup_nil
  | cons binding outer ih =>
    rw [visible, List.map_cons, List.nodup_cons]
    constructor
    · simp
    · exact ih.sublist (List.filter_sublist.map _)

namespace Definition

/-- The description can be written as records and tables that are read back. -/
structure Tabular (d : Definition) : Prop where
  namespaces : (d.namespaces.map (·.1)).Nodup
  types : d.types.Tabular

theorem Tabular.readable_toJson {d : Definition} (h : d.Tabular) : Readable d.toJson := by
  have hnamespaces : Readable (object (d.namespaces.map fun n => (n.1, text n.2))) :=
    readable_table h.namespaces fun n _ => .text n.2
  have hmessages : Readable (ofList Contract.Message.toJson d.messages) :=
    readable_ofList fun m _ => m.readable_toJson
  have hinterfaces : Readable (ofList Contract.Interface.toJson d.interfaces) :=
    readable_ofList fun i _ => i.readable_toJson
  have hbindings : Readable (ofList Contract.Binding.toJson d.bindings) :=
    readable_ofList fun b _ => b.readable_toJson
  have hservices : Readable (ofList Contract.Service.toJson d.services) :=
    readable_ofList fun s _ => s.readable_toJson
  exact .object (by simp) (by simp [hnamespaces, h.types.readable_toJson, hmessages, hinterfaces,
    hbindings, hservices])

/-- The text of a tabular description is read back to its record, as is its text on one line. -/
theorem Tabular.parse?_dump {d : Definition} (h : d.Tabular) :
    parse? d.dump = some d.toJson ∧ d.asData? = some d.toJson := by
  constructor
  · exact parse?_render h.readable_toJson
  · exact parse?_layout Layout.line h.readable_toJson

/-- Tabular descriptions with one text are the same. -/
theorem Tabular.dump_eq_iff {d d' : Definition} (h : d.Tabular) (h' : d'.Tabular)
    (hfrozen : d.types.frozen = d'.types.frozen) : d.dump = d'.dump ↔ d.Same d' := by
  rw [← toJson_eq_iff hfrozen]
  constructor
  · intro heq
    have hread := h.parse?_dump.1
    rw [heq, h'.parse?_dump.1] at hread
    exact (Option.some.inj hread).symm
  · intro heq
    unfold dump
    rw [heq]

/-- A description that has been read is tabular, and its catalog is frozen. -/
lemma exists_tabular (strict : Bool) (root : Located) :
    ∃ d : Definition, (read strict root).outcome = .ok d ∧ d.Tabular ∧ d.types.frozen = true := by
  have htypes := Schema.Catalog.tabular_addTypes (root.childNamed? "types" none) strict
  refine ⟨_, outcome_read strict root, ⟨?_, ?_⟩, rfl⟩
  · exact Xml.Scope.nodup_visible root.scope
  · exact ⟨htypes.typeNames, htypes.simpleTypeNames, htypes.short⟩

/-- The text of a description loses nothing. It is read back as just the data that the description
is, and two descriptions that are read from whatever elements have one text only if they are equal in
everything, the order of their lists and tables included. -/
theorem dump_lossless (root root' : Located) :
    ∃ d d' : Definition, (read false root).outcome = .ok d ∧ (read false root').outcome = .ok d' ∧
      parse? d.dump = some d.toJson ∧ d.asData? = some d.toJson ∧
      (d.dump = d'.dump ↔ d.Same d') := by
  obtain ⟨d, hread, h, hfrozen⟩ := exists_tabular false root
  obtain ⟨d', hread', h', hfrozen'⟩ := exists_tabular false root'
  obtain ⟨hback, hdata⟩ := h.parse?_dump
  exact ⟨d, d', hread, hread', hback, hdata, h.dump_eq_iff h' (hfrozen.trans hfrozen'.symm)⟩

end Definition
end ServiceDescription
