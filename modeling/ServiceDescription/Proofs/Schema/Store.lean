import Mathlib.Data.List.Nodup
import ServiceDescription.Proofs.Schema.InPlace

/-! The catalog as a store keyed by name: of several things of one name the first is kept, and what
a list of declarations leaves in the catalog is read off the list. -/
namespace ServiceDescription.Schema

/-- The members of a list whose key is neither taken nor the key of an earlier member. -/
def firsts {α : Type} (key : α → String) (taken : List String) : List α → List α
  | [] => []
  | a :: as =>
    if key a ∈ taken then firsts key taken as else a :: firsts key (taken ++ [key a]) as

section Firsts
variable {α : Type} (key : α → String)

lemma mem_of_mem_firsts {taken : List String} {as : List α} {a : α}
    (h : a ∈ firsts key taken as) : a ∈ as := by
  induction as generalizing taken with
  | nil => exact h
  | cons b as ih =>
    rw [firsts] at h
    split at h
    · exact List.mem_cons_of_mem _ (ih h)
    · rcases List.mem_cons.mp h with rfl | h
      · exact List.mem_cons_self
      · exact List.mem_cons_of_mem _ (ih h)

/-- Where no key occurs twice everything is kept. -/
lemma firsts_eq_self {taken : List String} {as : List α} (h : (taken ++ as.map key).Nodup) :
    firsts key taken as = as := by
  induction as generalizing taken with
  | nil => rfl
  | cons a as ih =>
    have ha : key a ∉ taken := by
      intro hmem
      exact (List.nodup_append.mp h).2.2 _ hmem _ List.mem_cons_self rfl
    rw [firsts, if_neg ha, ih]
    rwa [List.append_assoc]

end Firsts

def Declaration.complexType? : Declaration → Option ComplexType
  | .complexType t => some t
  | _ => none

def Declaration.element? : Declaration → Option Element
  | .element e => some e
  | _ => none

namespace Catalog

def typeNames (c : Catalog) : List String := c.complexTypes.map (·.name)

/-- The catalog with types that it does not have yet. -/
def withTypes (c : Catalog) (ts : List ComplexType) : Catalog :=
  { c with complexTypes := c.complexTypes ++ ts }

lemma hasComplexType_iff {c : Catalog} {name : String} :
    c.hasComplexType name = true ↔ name ∈ c.typeNames := by
  simp [hasComplexType, typeNames]

@[simp] lemma withTypes_nil (c : Catalog) : c.withTypes [] = c := by simp [withTypes]
@[simp] lemma withTypes_withTypes (c : Catalog) (ts us : List ComplexType) :
    (c.withTypes ts).withTypes us = c.withTypes (ts ++ us) := by simp [withTypes]
@[simp] lemma typeNames_withTypes (c : Catalog) (ts : List ComplexType) :
    (c.withTypes ts).typeNames = c.typeNames ++ ts.map (·.name) := by simp [withTypes, typeNames]
@[simp] lemma elements_withTypes (c : Catalog) (ts : List ComplexType) :
    (c.withTypes ts).elements = c.elements := rfl
@[simp] lemma complexTypes_withTypes (c : Catalog) (ts : List ComplexType) :
    (c.withTypes ts).complexTypes = c.complexTypes ++ ts := rfl

lemma insert_complexType {c : Catalog} {t : ComplexType} (h : ¬c.hasComplexType t.name = true) :
    c.insert (.complexType t) = c.withTypes [t] := by
  rw [insert, if_neg h, withTypes]

theorem elements_insertAll (c : Catalog) (ds : List Declaration) :
    (c.insertAll ds).elements = c.elements ++ ds.filterMap Declaration.element? := by
  induction ds generalizing c with
  | nil => simp
  | cons d ds ih =>
    rw [insertAll_cons, ih]
    cases d <;> simp only [insert, List.filterMap_cons, Declaration.element?]
    case element e => simp
    all_goals split <;> rfl

/-- Of the complex types of one name the first is kept. -/
theorem complexTypes_insertAll (c : Catalog) (ds : List Declaration) :
    (c.insertAll ds).complexTypes =
      c.complexTypes ++ firsts (·.name) c.typeNames (ds.filterMap Declaration.complexType?) := by
  induction ds generalizing c with
  | nil => simp [firsts]
  | cons d ds ih =>
    rw [insertAll_cons, ih]
    cases d with
    | complexType t =>
      by_cases h : c.hasComplexType t.name = true
      · have hmem := hasComplexType_iff.mp h
        simp [insert, h, Declaration.complexType?, firsts, hmem]
      · have hmem : t.name ∉ c.typeNames := fun hm => h (hasComplexType_iff.mpr hm)
        simp [insert_complexType h, Declaration.complexType?, firsts, hmem]
    | schema label => rfl
    | importedNamespace uri => rw [insert]; split <;> rfl
    | simpleType t => rw [insert]; split <;> rfl
    | element e => rfl

end Catalog
end ServiceDescription.Schema
