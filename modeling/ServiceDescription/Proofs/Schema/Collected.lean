import ServiceDescription.Proofs.Schema.Reachable

/-! What reading a types section comes to. The declarations of all schemas are put into the catalog,
then the types that promotion grants, and last the references are marked. Marking changes no name
and no namespace, so it finds what the finished catalog finds. -/
namespace ServiceDescription.Schema
open Xml

/-- The nodes of a kind at the top of the schemas, in document order, each with the namespace of its
schema. -/
def topLevel (kind : String) (types : Option Located) : List (String × Located) :=
  (Catalog.schemasOf types).flatMap fun l =>
    (l.childrenNamed kind none).map fun node => (targetNamespace l, node)

lemma mem_topLevel_iff {kind uri : String} {types : Option Located} {l : Located} :
    (uri, l) ∈ topLevel kind types ↔
      ∃ s ∈ Catalog.schemasOf types, l ∈ s.childrenNamed kind none ∧ targetNamespace s = uri := by
  simp [topLevel]

/-- The complex types declared at the top of the schemas. -/
def declaredTypes (types : Option Located) : List ComplexType :=
  (topLevel "complexType" types).map fun d => (ComplexType.read d.2 d.1 none).value

def declaredElements (types : Option Located) : List Element :=
  (topLevel "element" types).map fun d => Element.ofDeclaration d.2 d.1

namespace Fragment

def importedNamespaces (l : Located) : List String :=
  ((l.childrenNamed "import" none).map (·.attr "namespace")).filter (· ≠ "")

theorem values_declarations (l : Located) :
    (declarations l).map (·.value) =
      (importedNamespaces l).map .importedNamespace ++
      (l.childrenNamed "complexType" none).map
        (fun t => .complexType (ComplexType.read t (targetNamespace l) none).value) ++
      (l.childrenNamed "simpleType" none).map
        (fun t => .simpleType (SimpleType.ofDeclaration t (targetNamespace l))) ++
      (l.childrenNamed "element" none).map
        (fun e => .element (Element.ofDeclaration e (targetNamespace l))) := by
  have himports : ∀ is : List Located,
      (is.filterMap fun i => if i.attr "namespace" = "" then none
        else some (⟨.importedNamespace (i.attr "namespace"), []⟩ : Reported Declaration)).map
          (·.value) =
        ((is.map (·.attr "namespace")).filter (· ≠ "")).map .importedNamespace := by
    intro is
    induction is with
    | nil => rfl
    | cons i is ih => by_cases hi : i.attr "namespace" = "" <;> simp [hi] at ih ⊢ <;> exact ih
  simp only [declarations, importedNamespaces, ← himports, List.map_append, List.map_map]
  rfl

/-- What a schema puts into a catalog. -/
def contents (strict : Bool) (l : Located) : List Declaration :=
  (if strict && Strict.passes l then [.schema label] else []) ++ (declarations l).map (·.value)

theorem complexTypes_contents (strict : Bool) (l : Located) :
    (contents strict l).filterMap Declaration.complexType? =
      (l.childrenNamed "complexType" none).map fun t =>
        (ComplexType.read t (targetNamespace l) none).value := by
  rw [contents, values_declarations]
  cases strict && Strict.passes l <;>
    simp [List.filterMap_cons, List.filterMap_map, Function.comp_def, Declaration.complexType?]

theorem elements_contents (strict : Bool) (l : Located) :
    (contents strict l).filterMap Declaration.element? =
      (l.childrenNamed "element" none).map (Element.ofDeclaration · (targetNamespace l)) := by
  rw [contents, values_declarations]
  cases strict && Strict.passes l <;>
    simp [List.filterMap_cons, List.filterMap_map, Function.comp_def, Declaration.element?]

end Fragment

namespace Catalog

/-- What a types section declares at the top of its schemas. -/
def sectionContents (strict : Bool) (types : Option Located) : List Declaration :=
  (schemasOf types).flatMap (Fragment.contents strict)

theorem complexTypes_sectionContents (strict : Bool) (types : Option Located) :
    (sectionContents strict types).filterMap Declaration.complexType? = declaredTypes types := by
  simp [sectionContents, declaredTypes, topLevel, List.filterMap_flatMap,
    Fragment.complexTypes_contents, List.map_flatMap, Function.comp_def]

theorem elements_sectionContents (strict : Bool) (types : Option Located) :
    (sectionContents strict types).filterMap Declaration.element? = declaredElements types := by
  simp [sectionContents, declaredElements, topLevel, List.filterMap_flatMap,
    Fragment.elements_contents, List.map_flatMap, Function.comp_def]

namespace InPlace
variable {c : Catalog}

/-- Reading a schema ends as adding its label, if it gets one, and its declarations does. -/
lemma ends_addSchema_of {d : Catalog} {r : Except Error Unit} {strict : Bool} {l : Located}
    (h : Ends (do
      if strict && Strict.passes l then add (.schema Fragment.label)
      addAll (Fragment.declarations l)) c r d) :
    (addSchema strict l).Ends c r d := by
  refine Ends.bind (leaves_lift c _) ?_
  cases strict with
  | false => exact Ends.bind (leaves_pure c false) h
  | true =>
    have hvalue : (Fragment.check l).value = Strict.passes l := by
      rw [Fragment.check]
      cases Strict.passes l <;> rfl
    refine Ends.bind (leaves_lift c (Fragment.check l)) ?_
    rw [hvalue]
    exact h

theorem ends_addSchema (h : c.frozen = false) (strict : Bool) (l : Located) :
    (addSchema strict l).Ends c (.ok ()) (c.insertAll (Fragment.contents strict l)) := by
  apply ends_addSchema_of
  rw [Fragment.contents]
  cases strict && Strict.passes l with
  | false => exact ends_addAll h _
  | true => exact Ends.bind (ends_add h _) (ends_addAll (by exact h) _)

theorem ends_addSchemas (h : c.frozen = false) (strict : Bool) (ls : List Located) :
    (addSchemas strict ls).Ends c (.ok ())
      (c.insertAll (ls.flatMap (Fragment.contents strict))) := by
  induction ls generalizing c with
  | nil => exact leaves_pure c ()
  | cons l ls ih =>
    refine Ends.bind (ends_addSchema h strict l) ?_
    rw [List.flatMap_cons, insertAll_append]
    exact ih (by rw [frozen_insertAll, h])

end InPlace

/-- The catalog when all types have been added and no reference has been marked. -/
def collected (c : Catalog) (strict : Bool) (types : Option Located) : Catalog :=
  let declared := c.insertAll (sectionContents strict types)
  declared.withTypes
    ((InlineType.granted declared.typeNames (pendingTypes types)).map (·.built))

/-- A types section is read into an open catalog without refusal. -/
theorem outcome_addTypes {c : Catalog} (h : c.frozen = false) (strict : Bool)
    (types : Option Located) :
    (c.addTypes strict types).outcome = .ok (c.collected strict types).markReferences := by
  have hdeclared : (c.insertAll (sectionContents strict types)).frozen = false := by
    rw [frozen_insertAll, h]
  have hends : (InPlace.addTypes strict types).Ends c (.ok ())
      (c.collected strict types).markReferences := by
    refine InPlace.Ends.bind (InPlace.ends_addSchemas h strict _) ?_
    refine InPlace.Ends.bind (InPlace.ends_promote hdeclared (pendingTypes types)) ?_
    exact InPlace.ends_modify _ markReferences
  exact hends.outcome_attempt

theorem elements_collected (strict : Bool) (types : Option Located) :
    (empty.collected strict types).elements = declaredElements types := by
  rw [collected, elements_withTypes, elements_insertAll, elements_sectionContents]
  exact List.nil_append _

/-- The declared types that are kept, and the requests that are granted after them. -/
def keptTypes (types : Option Located) : List ComplexType :=
  firsts (·.name) [] (declaredTypes types)

def grantedTypes (types : Option Located) : List InlineType :=
  InlineType.granted ((keptTypes types).map (·.name)) (pendingTypes types)

lemma reached_of_granted {types : Option Located} {r : InlineType} (h : r ∈ grantedTypes types) :
    r.Reached types :=
  mem_reachedTypes_iff.mp (InlineType.granted_subset_depthFirst _ _ h)

theorem complexTypes_collected (strict : Bool) (types : Option Located) :
    (empty.collected strict types).complexTypes =
      keptTypes types ++ (grantedTypes types).map (·.built) := by
  have hdeclared :
      (empty.insertAll (sectionContents strict types)).complexTypes = keptTypes types := by
    rw [complexTypes_insertAll, complexTypes_sectionContents]
    exact List.nil_append _
  rw [collected, complexTypes_withTypes, typeNames, hdeclared, grantedTypes]

theorem typeNames_collected (strict : Bool) (types : Option Located) :
    (empty.collected strict types).typeNames =
      (keptTypes types).map (·.name) ++ (grantedTypes types).map (·.typeName) := by
  rw [typeNames, complexTypes_collected, List.map_append, InlineType.names_built]

end Catalog
end ServiceDescription.Schema
