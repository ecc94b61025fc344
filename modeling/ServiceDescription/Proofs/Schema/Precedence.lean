import ServiceDescription.Proofs.Schema.Marking
import ServiceDescription.Proofs.Xml.Plain

/-! Declared types take their names first. Whatever stands where in the schemas of a types section,
the catalog begins with the declared types, the first one of each name, and an inline body gets a
name only if no type is declared under it. -/
namespace ServiceDescription.Schema
open Xml

section Firsts
variable {α : Type} (key : α → String)

theorem keys_firsts (taken : List String) (as : List α) :
    (firsts key taken as).map key = ((as.map key).filter (· ∉ taken)).eraseDups := by
  induction as generalizing taken with
  | nil => rfl
  | cons a as ih =>
    by_cases ha : key a ∈ taken
    · rw [firsts, if_pos ha, ih, List.map_cons, List.filter_cons_of_neg (by simpa using ha)]
    · rw [firsts, if_neg ha, List.map_cons, ih, List.map_cons,
        List.filter_cons_of_pos (by simpa using ha), List.eraseDups_cons, List.filter_filter]
      -- a key that is kept is taken from then on, as a member that stays is dropped later
      congr 2
      exact List.filter_congr fun s _ => by by_cases hs : s = key a <;> simp [hs]

lemma notMem_of_mem_firsts {taken : List String} {as : List α} {a : α}
    (h : a ∈ firsts key taken as) : key a ∉ taken := by
  have hkey := List.mem_map_of_mem (f := key) h
  rw [keys_firsts, List.mem_eraseDups, List.mem_filter] at hkey
  simpa using hkey.2

theorem nodup_firsts (taken : List String) (as : List α) :
    ((firsts key taken as).map key).Nodup := by
  induction as generalizing taken with
  | nil => exact List.nodup_nil
  | cons a as ih =>
    rw [firsts]
    split
    · exact ih taken
    · refine List.nodup_cons.mpr ⟨fun hmem => ?_, ih _⟩
      obtain ⟨b, hb, hkey⟩ := List.mem_map.mp hmem
      exact notMem_of_mem_firsts key hb (by simp [hkey])

/-- The member kept under a key is the first one that has it. -/
theorem find?_firsts {taken : List String} {as : List α} {k : String} (hk : k ∉ taken) :
    (firsts key taken as).find? (key · = k) = as.find? (key · = k) := by
  induction as generalizing taken with
  | nil => rfl
  | cons a as ih =>
    by_cases ha : key a ∈ taken
    · have hne : key a ≠ k := fun he => hk (he ▸ ha)
      rw [firsts, if_pos ha, ih hk, List.find?_cons_of_neg (by simpa using hne)]
    · rw [firsts, if_neg ha]
      by_cases he : key a = k
      · rw [List.find?_cons_of_pos (by simpa using he), List.find?_cons_of_pos (by simpa using he)]
      · rw [List.find?_cons_of_neg (by simpa using he), List.find?_cons_of_neg (by simpa using he)]
        exact ih (by simpa [hk] using Ne.symm he)

end Firsts

namespace Catalog
variable {types : Option Located} {strict : Bool}

lemma names_keptTypes (types : Option Located) :
    (keptTypes types).map (·.name) =
      ((topLevel "complexType" types).map fun n => n.2.attr "name").eraseDups := by
  rw [keptTypes, keys_firsts, declaredTypes, List.map_map]
  simp [Function.comp_def]

lemma find?_keptTypes (types : Option Located) (name : String) :
    (keptTypes types).find? (·.name = name) =
      ((topLevel "complexType" types).find? fun n => n.2.attr "name" = name).map fun n =>
        (ComplexType.read n.2 n.1 none).value := by
  rw [keptTypes, find?_firsts _ (List.not_mem_nil), declaredTypes, List.find?_map]
  simp only [Function.comp_def, ComplexType.name_read, Option.getD_none]

lemma typeNames_markReferences (c : Catalog) : c.markReferences.typeNames = c.typeNames := by
  simp [typeNames, complexTypes_markReferences, marked]

/-- A promoted type has a name that no type is declared under. -/
lemma typeName_ne_of_granted {r : InlineType} (hr : r ∈ grantedTypes types) {n : String × Located}
    (hn : n ∈ topLevel "complexType" types) : n.2.attr "name" ≠ r.typeName := by
  intro he
  refine InlineType.notMem_of_mem_granted hr ?_
  rw [names_keptTypes, List.mem_eraseDups, ← he]
  exact List.mem_map_of_mem hn

/-- The catalog of a types section has the names of the declared types in the order in which they
first occur, then those of promoted types. A declared name leads to the type read from the first
node that declares it, with the namespace of its own schema; any other name leads to the type of the
inline body that it was made up for. -/
theorem addTypes_declaredFirst (types : Option Located) (strict : Bool) :
    ∃ (d : Catalog) (promoted : List InlineType),
      (empty.addTypes strict types).outcome = .ok d ∧
      d.typeNames = ((topLevel "complexType" types).map fun n => n.2.attr "name").eraseDups ++
        promoted.map (·.typeName) ∧
      d.typeNames.Nodup ∧
      (∀ r ∈ promoted, r.Reached types ∧
        ∀ n ∈ topLevel "complexType" types, n.2.attr "name" ≠ r.typeName) ∧
      ∀ name, d.complexType? name none =
        match (topLevel "complexType" types).find? fun n => n.2.attr "name" = name with
        | some n => some (d.marked (ComplexType.read n.2 n.1 none).value)
        | none => (promoted.find? (·.typeName = name)).map fun r => d.marked r.built := by
  have hnames : (empty.collected strict types).markReferences.typeNames =
      ((topLevel "complexType" types).map fun n => n.2.attr "name").eraseDups ++
        (grantedTypes types).map (·.typeName) := by
    rw [typeNames_markReferences, typeNames_collected, names_keptTypes]
  refine ⟨_, grantedTypes types, outcome_addTypes rfl strict types, hnames, ?_, ?_, ?_⟩
  · rw [typeNames_markReferences, typeNames_collected, List.nodup_append]
    refine ⟨nodup_firsts _ [] _, InlineType.nodup_granted _ _, fun s hs s' hs' he => ?_⟩
    obtain ⟨r, hr, rfl⟩ := List.mem_map.mp hs'
    exact InlineType.notMem_of_mem_granted hr (he ▸ hs)
  · exact fun r hr => ⟨reached_of_granted hr, fun n hn => typeName_ne_of_granted hr hn⟩
  · intro name
    rw [complexType?_markReferences, complexType?_none, complexTypes_collected, List.find?_append,
      find?_keptTypes, List.find?_map, marked_markReferences]
    cases (topLevel "complexType" types).find? fun n => n.2.attr "name" = name with
    | some n => rfl
    | none => simp [Function.comp_def]

/-- An element with an inline body before a type of the name made up for it, and a later type of
this name in another schema. -/
def lateSchemas : Located := .root <| .plain "types" [] [
  .plain "schema" [("targetNamespace", "urn:a")] [
    .plain "element" [("name", "Foo")] [.plain "complexType" [] [.plain "sequence" [] [
      .plain "element" [("name", "Bar")] [.plain "complexType" [] []]]]],
    .plain "element" [("name", "Baz")] [.plain "complexType" [] []]],
  .plain "schema" [("targetNamespace", "urn:b")] [
    .plain "complexType" [("name", "FooType")] [],
    .plain "complexType" [("name", "Qux")] []],
  .plain "schema" [("targetNamespace", "urn:c")] [.plain "complexType" [("name", "FooType")] []]]

theorem addTypes_declaredFirst_lateSchemas :
    ∃ d : Catalog, (empty.addTypes false (some lateSchemas)).outcome = .ok d ∧
      d.typeNames.take 2 = ["FooType", "Qux"] ∧
      (d.complexType? "FooType" none).map (·.space) = some "urn:b" := by
  obtain ⟨d, promoted, hread, hnames, -, -, hfind⟩ :=
    addTypes_declaredFirst (some lateSchemas) false
  have hdeclared : ((topLevel "complexType" (some lateSchemas)).map fun n =>
      n.2.attr "name").eraseDups = ["FooType", "Qux"] := by decide +kernel
  have hfirst : ((topLevel "complexType" (some lateSchemas)).find? fun n =>
      n.2.attr "name" = "FooType").map (·.1) = some "urn:b" := by decide +kernel
  refine ⟨d, hread, ?_, ?_⟩
  · rw [hnames, hdeclared]
    rfl
  · obtain ⟨n, hn, huri⟩ := Option.map_eq_some_iff.mp hfirst
    rw [hfind, hn]
    simp [marked, huri]

end Catalog
end ServiceDescription.Schema
