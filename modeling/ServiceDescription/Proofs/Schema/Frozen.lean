import ServiceDescription.Proofs.Schema.InPlace
import ServiceDescription.Proofs.Schema.Marking
import ServiceDescription.Proofs.Xml.Plain

/-! What the stage that reads types does to a frozen catalog. What would be added is refused, and
nothing is left behind. Marking asks for no permission, though: a types section without declarations
marks the elements of a frozen catalog that wait for their marks. So the stage leaves a frozen
catalog alone exactly if no element waits, as it is after every types section. -/
namespace ServiceDescription.Schema.Catalog
open Xml

/-- An element that refers to a type of the catalog and is not marked. -/
def Waits (c : Catalog) (e : Element) : Prop :=
  e.typeName ≠ "" ∧ (c.complexType? e.typeName (some e.typeSpace)).isSome = true ∧
    e.isComplex = false

lemma map_eq_self_iff {α : Type} {f : α → α} {as : List α} :
    as.map f = as ↔ ∀ a ∈ as, f a = a := by
  simpa using List.map_inj_left (l := as) (f := f) (g := id)

section Marks
variable (c : Catalog)

lemma mark_eq_self_iff (e : Element) : c.mark e = e ↔ ¬c.Waits e := by
  unfold mark Waits
  split
  · next h =>
    have hset : { e with isComplex := true } = e ↔ e.isComplex = true := by
      cases e
      simp [eq_comm]
    rw [Bool.and_eq_true, decide_eq_true_eq] at h
    rw [hset]
    simp [h]
  · next h =>
    rw [Bool.and_eq_true, decide_eq_true_eq] at h
    simp only [true_iff]
    rintro ⟨hname, hfound, -⟩
    exact h ⟨hname, hfound⟩

lemma marked_eq_self_iff (t : ComplexType) :
    c.marked t = t ↔ ∀ e ∈ t.elements, c.mark e = e := by
  rw [← map_eq_self_iff]
  constructor
  · intro h
    exact congrArg ComplexType.elements h
  · intro h
    rw [marked, h]

theorem markReferences_eq_self_iff :
    c.markReferences = c ↔ ∀ e ∈ c.heldElements, ¬c.Waits e := by
  have hlists : c.markReferences = c ↔
      c.elements.map c.mark = c.elements ∧ c.complexTypes.map c.marked = c.complexTypes := by
    constructor
    · intro h
      exact ⟨congrArg Catalog.elements h, congrArg Catalog.complexTypes h⟩
    · rintro ⟨helements, htypes⟩
      show ({ c with elements := _, complexTypes := c.complexTypes.map c.marked } : Catalog) = c
      rw [helements, htypes]
  simp only [hlists, map_eq_self_iff, marked_eq_self_iff, mark_eq_self_iff, heldElements,
    List.mem_append, List.mem_flatMap]
  constructor
  · rintro ⟨htop, hmembers⟩ e (he | ⟨t, ht, he⟩)
    · exact htop e he
    · exact hmembers t ht e he
  · intro h
    constructor
    · intro e he
      exact h e (.inl he)
    · intro t ht e he
      exact h e (.inr ⟨t, ht, he⟩)

/-- No element waits for a second marking. -/
theorem markReferences_markReferences : c.markReferences.markReferences = c.markReferences := by
  rw [markReferences_eq_self_iff]
  intro e he hwaits
  rw [heldElements_markReferences] at he
  obtain ⟨e, -, rfl⟩ := List.mem_map.mp he
  obtain ⟨hname, hfound, hflag⟩ := hwaits
  rw [typeName_mark] at hname
  rw [typeName_mark, typeSpace_mark, complexType?_markReferences, Option.isSome_map] at hfound
  rw [mark, if_pos (by simp [hname, hfound])] at hflag
  contradiction

end Marks

/-- One call of the stage on a catalog. -/
inductive StageCall where
  | schema (strict : Bool) (l : Located)
  | promote (requests : List InlineType)
  | readAll (strict : Bool) (types : Option Located)

namespace StageCall

def perform : StageCall → InPlace Unit
  | schema strict l => InPlace.addSchema strict l
  | promote requests => discard (InPlace.promote requests)
  | readAll strict types => InPlace.addTypes strict types

/-- The catalog after a sequence of calls. A call that is refused does not end the sequence. -/
def afterAll (c : Catalog) (calls : List StageCall) : Catalog :=
  calls.foldl (fun c call => call.perform.after c) c

/-- Whether the call has nothing to add to the catalog. -/
def addsNothing (c : Catalog) : StageCall → Bool
  | schema strict l => (Fragment.contents strict l).isEmpty
  | promote requests => requests.all fun r => c.hasComplexType r.typeName
  | readAll strict types => (sectionContents strict types).isEmpty

/-- Whether the call gets as far as marking the references of a frozen catalog. -/
def marks : StageCall → Bool
  | readAll strict types => (sectionContents strict types).isEmpty
  | _ => false

end StageCall

namespace InPlace
variable {c : Catalog}

theorem leaves_addSchema (h : c.frozen = true) (strict : Bool) (l : Located) :
    (addSchema strict l).Leaves c
      (if (Fragment.contents strict l).isEmpty then .ok () else .error .frozen) := by
  apply ends_addSchema_of
  rw [Fragment.contents]
  cases strict && Strict.passes l with
  | false => exact leaves_addAll h (Fragment.declarations l)
  | true => exact (leaves_add h _).bind_of_error

theorem leaves_addSchemas (h : c.frozen = true) (strict : Bool) (ls : List Located) :
    (addSchemas strict ls).Leaves c
      (if (ls.flatMap (Fragment.contents strict)).isEmpty then .ok () else .error .frozen) := by
  induction ls with
  | nil => exact leaves_pure c ()
  | cons l ls ih =>
    have hfirst := leaves_addSchema h strict l
    rw [List.flatMap_cons]
    cases hl : (Fragment.contents strict l).isEmpty with
    | true =>
      rw [hl] at hfirst
      rw [List.isEmpty_iff.mp hl, List.nil_append]
      exact hfirst.bind ih
    | false =>
      have hmore : (Fragment.contents strict l ++ ls.flatMap (Fragment.contents strict)).isEmpty =
          false := by
        simp_all
      rw [hl] at hfirst
      rw [hmore]
      exact hfirst.bind_of_error

/-- As long as the names are known nothing is built. -/
theorem leaves_promote (h : c.frozen = true) (requests : List InlineType) :
    (promote requests).Leaves c
      (if requests.all (fun r => c.hasComplexType r.typeName) then .ok [] else .error .frozen) := by
  induction requests with
  | nil =>
    rw [promote]
    exact leaves_pure c []
  | cons r rest ih =>
    rw [promote]
    refine (leaves_get c).bind ?_
    rw [List.all_cons]
    cases hr : c.hasComplexType r.typeName with
    | true =>
      rw [if_pos rfl]
      exact (leaves_lift c _).bind ih
    | false =>
      rw [if_neg Bool.false_ne_true]
      exact (leaves_lift c _).bind (leaves_add h _).bind_of_error

/-- A schema without anything to add has no inline types. -/
lemma inlineTypes_of_contents {strict : Bool} {l : Located} (h : Fragment.contents strict l = []) :
    Fragment.inlineTypes l = [] := by
  have hvalues := (List.append_eq_nil_iff.mp h).2
  rw [Fragment.values_declarations] at hvalues
  simp only [List.append_eq_nil_iff, List.map_eq_nil_iff] at hvalues
  obtain ⟨⟨⟨-, htypes⟩, -⟩, helements⟩ := hvalues
  simp [Fragment.inlineTypes, htypes, helements]

/-- A types section with anything to add is refused. Any other one is read to its end, and then the
references are marked. -/
theorem addTypes_of_frozen (h : c.frozen = true) (strict : Bool) (types : Option Located) :
    (addTypes strict types).Ends c
      (if (sectionContents strict types).isEmpty then .ok () else .error .frozen)
      (if (sectionContents strict types).isEmpty then c.markReferences else c) := by
  have hschemas := leaves_addSchemas h strict (schemasOf types)
  rw [show (schemasOf types).flatMap (Fragment.contents strict) = sectionContents strict types from
    rfl] at hschemas
  unfold addTypes
  cases hs : (sectionContents strict types).isEmpty with
  | false =>
    rw [hs] at hschemas
    exact hschemas.bind_of_error
  | true =>
    have hnone : (schemasOf types).flatMap Fragment.inlineTypes = [] := by
      rw [List.flatMap_eq_nil_iff]
      intro l hl
      exact inlineTypes_of_contents (List.flatMap_eq_nil_iff.mp (List.isEmpty_iff.mp hs) l hl)
    have hpromote := leaves_promote h []
    rw [hs] at hschemas
    rw [hnone]
    exact Ends.bind hschemas (Ends.bind hpromote (ends_modify c markReferences))

/-- A types section that is read to its end has been marked last. -/
lemma exists_markReferences {strict : Bool} {types : Option Located}
    (h : (addTypes strict types).result c = .ok ()) :
    ∃ d : Catalog, (addTypes strict types).after c = d.markReferences := by
  obtain ⟨_, -, hrest, hafter⟩ := exists_of_result_bind h
  obtain ⟨_, -, -, hmarked⟩ := exists_of_result_bind hrest
  exact ⟨_, hafter.trans hmarked⟩

end InPlace

namespace StageCall
variable {c : Catalog}

/-- What one call does to a frozen catalog. -/
theorem perform_of_frozen (h : c.frozen = true) (call : StageCall) :
    call.perform.result c = (if call.addsNothing c then .ok () else .error .frozen) ∧
    call.perform.after c = if call.marks then c.markReferences else c := by
  cases call with
  | schema strict l => exact InPlace.leaves_addSchema h strict l
  | readAll strict types => exact InPlace.addTypes_of_frozen h strict types
  | promote requests =>
    have hpromote := InPlace.leaves_promote h requests
    show (discard (InPlace.promote requests)).Leaves c _
    rw [addsNothing]
    cases hr : requests.all fun r => c.hasComplexType r.typeName with
    | true =>
      rw [hr] at hpromote
      exact hpromote.bind (InPlace.leaves_pure c ())
    | false =>
      rw [hr] at hpromote
      exact hpromote.bind_of_error

lemma addsNothing_markReferences (c : Catalog) (call : StageCall) :
    call.addsNothing c.markReferences = call.addsNothing c := by
  cases call with
  | promote requests =>
    have hknown : ∀ name, c.markReferences.hasComplexType name = c.hasComplexType name := by
      intro name
      rw [Bool.eq_iff_iff, hasComplexType_iff, hasComplexType_iff, typeNames, typeNames,
        complexTypes_markReferences, List.map_map]
      rfl
    simp [addsNothing, hknown]
  | schema strict l => rfl
  | readAll strict types => rfl

@[simp] lemma afterAll_cons (c : Catalog) (call : StageCall) (calls : List StageCall) :
    afterAll c (call :: calls) = afterAll (call.perform.after c) calls := rfl

/-- Once the references are marked no call changes anything. -/
lemma afterAll_of_marked (h : c.frozen = true) (hmarks : c.markReferences = c)
    (calls : List StageCall) : afterAll c calls = c := by
  induction calls with
  | nil => rfl
  | cons call calls ih =>
    have hafter : call.perform.after c = c := by
      rw [(perform_of_frozen h call).2, hmarks, ite_self]
    rw [afterAll_cons, hafter, ih]

/-- A whole sequence of calls marks the references of a frozen catalog or does nothing. -/
theorem afterAll_of_frozen (h : c.frozen = true) (calls : List StageCall) :
    afterAll c calls = if calls.any marks then c.markReferences else c := by
  induction calls with
  | nil => rfl
  | cons call calls ih =>
    rw [afterAll_cons, (perform_of_frozen h call).2, List.any_cons]
    cases call.marks with
    | true =>
      -- the first call that marks has done all that later ones can do
      have hmarks := markReferences_markReferences c
      exact afterAll_of_marked (c := c.markReferences) h hmarks calls
    | false => exact ih

/-- The stage and a frozen catalog. A call is refused if it has anything to add, and all that a
sequence of calls may leave behind is marks, from a types section without declarations or from none
at all. The catalog is read-only for the stage exactly if no element that it holds waits for a
mark. -/
theorem readOnly_iff (h : c.frozen = true) :
    (∀ calls (call : StageCall), call.perform.result (afterAll c calls) =
      if call.addsNothing c then .ok () else .error .frozen) ∧
    (∀ calls, afterAll c calls = if calls.any marks then c.markReferences else c) ∧
    ((∀ calls, afterAll c calls = c) ↔ ∀ e ∈ c.heldElements, ¬c.Waits e) := by
  refine ⟨?_, afterAll_of_frozen h, ?_⟩
  · intro calls call
    rw [afterAll_of_frozen h]
    split
    · rw [(perform_of_frozen (c := c.markReferences) h call).1, addsNothing_markReferences]
    · rw [(perform_of_frozen h call).1]
  · rw [← markReferences_eq_self_iff]
    constructor
    · intro hleft
      have hmarked := hleft [readAll false none]
      rwa [afterAll_of_frozen h] at hmarked
    · intro hmarks calls
      exact afterAll_of_marked h hmarks calls

/-- A catalog that is frozen after a types section has been read is read-only for the stage. -/
theorem afterAll_readAll {strict : Bool} {types : Option Located}
    (hread : (readAll strict types).perform.result c = .ok ()) (calls : List StageCall) :
    afterAll ((readAll strict types).perform.after c).freeze calls =
      ((readAll strict types).perform.after c).freeze := by
  obtain ⟨d, hd⟩ := InPlace.exists_markReferences hread
  rw [perform, hd]
  apply afterAll_of_marked rfl
  exact congrArg freeze (markReferences_markReferences d)

/-- A schema with a type and an element that refers to it. -/
def orderSchema : Located := .root <| .plain "schema" [("targetNamespace", "urn:a")] [
  .plain "complexType" [("name", "Order")] [],
  .plain "element" [("name", "Sent"), ("type", "Order")] []]

/-- The catalog of one schema, frozen before its references are marked. -/
def orderCatalog : Catalog := ((schema false orderSchema).perform.after empty).freeze

theorem readOnly_iff_orderCatalog :
    orderCatalog.frozen = true ∧
    (readAll false none).perform.result orderCatalog = .ok () ∧
    afterAll orderCatalog [readAll false none] = orderCatalog.markReferences := by
  obtain ⟨hresult, hafter, -⟩ := readOnly_iff (c := orderCatalog) rfl
  refine ⟨rfl, ?_, ?_⟩
  · exact hresult [] (readAll false none)
  · exact hafter [readAll false none]

/-- Not every catalog that the stage has filled is read-only for it once it is frozen. -/
theorem orderCatalog_changes :
    ¬∀ before after : List StageCall,
      afterAll (afterAll empty before).freeze after = (afterAll empty before).freeze := by
  intro h
  have hsame := h [schema false orderSchema] [readAll false none]
  have hmarks := congrArg (fun c => c.elements.map (·.isComplex)) hsame
  revert hmarks
  decide +kernel

end StageCall

end ServiceDescription.Schema.Catalog
