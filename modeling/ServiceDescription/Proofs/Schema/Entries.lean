import ServiceDescription.Proofs.Schema.Precedence

/-! The nodes behind a catalog. Every complex type of it is read from a node, and every element that
it holds is declared by one; both are listed here in the order of the catalog, so that what is said
about types and elements can be said next to their declarations. -/
namespace ServiceDescription.Schema
open Xml

/-- The nodes of a types section that declare elements of its catalog, with the namespaces of their
schemas: those at the top, and the members of declared types and of inline bodies. -/
inductive Element.DeclaredIn (types : Option Located) : String → Located → Prop
  | top {uri : String} {l : Located} (h : (uri, l) ∈ topLevel "element" types) :
      DeclaredIn types uri l
  | ofType {uri : String} {type l : Located} (ht : (uri, type) ∈ topLevel "complexType" types)
      (hl : l ∈ ComplexType.memberNodes type) : DeclaredIn types uri l
  | ofInline {r : InlineType} {l : Located} (hr : r.Reached types)
      (hl : l ∈ ComplexType.memberNodes r.body) : DeclaredIn types r.space l

lemma InlineType.Reached.exists_schema {types : Option Located} {r : InlineType}
    (h : r.Reached types) : ∃ s ∈ Catalog.schemasOf types, r.space = targetNamespace s := by
  induction h with
  | ofType hs => exact ⟨_, hs, rfl⟩
  | ofElement hs => exact ⟨_, hs, rfl⟩
  | ofMember _ _ _ ih => exact ih

lemma Element.DeclaredIn.exists_schema {types : Option Located} {uri : String} {l : Located}
    (h : DeclaredIn types uri l) : ∃ s ∈ Catalog.schemasOf types, uri = targetNamespace s := by
  cases h with
  | top h =>
    obtain ⟨s, hs, -, rfl⟩ := mem_topLevel_iff.mp h
    exact ⟨s, hs, rfl⟩
  | ofType ht =>
    obtain ⟨s, hs, -, rfl⟩ := mem_topLevel_iff.mp ht
    exact ⟨s, hs, rfl⟩
  | ofInline hr => exact hr.exists_schema

lemma firsts_map {α β : Type} (key : β → String) (f : α → β) (taken : List String) (as : List α) :
    firsts key taken (as.map f) = (firsts (key ∘ f) taken as).map f := by
  induction as generalizing taken with
  | nil => rfl
  | cons a as ih =>
    rw [List.map_cons, firsts, firsts]
    by_cases ha : key (f a) ∈ taken
    · rw [if_pos ha, if_pos (show (key ∘ f) a ∈ taken from ha), ih]
    · rw [if_neg ha, if_neg (show (key ∘ f) a ∉ taken from ha), ih]
      rfl

/-- A node that a complex type of the catalog is read from, with the name and the namespace of the
type. -/
structure Entry where
  name : String
  space : String
  node : Located

namespace Entry

def ofDeclared (n : String × Located) : Entry := ⟨n.2.attr "name", n.1, n.2⟩

def ofInline (r : InlineType) : Entry := ⟨r.typeName, r.space, r.body⟩

/-- The type before the references are marked. -/
def type (s : Entry) : ComplexType := (ComplexType.read s.node s.space (some s.name)).value

@[simp] lemma name_type (s : Entry) : s.type.name = s.name :=
  ComplexType.name_read s.node s.space (some s.name)

@[simp] lemma space_type (s : Entry) : s.type.space = s.space :=
  ComplexType.space_read s.node s.space (some s.name)

end Entry

namespace Catalog
variable {types : Option Located} {strict : Bool}

/-- The nodes of the complex types: of the declared ones the first of each name, then the inline
bodies that are promoted. -/
def entries (types : Option Located) : List Entry :=
  firsts Entry.name [] ((topLevel "complexType" types).map Entry.ofDeclared) ++
    (grantedTypes types).map Entry.ofInline

theorem complexTypes_eq_entries (types : Option Located) (strict : Bool) :
    (empty.collected strict types).complexTypes = (entries types).map Entry.type := by
  have hdeclared : declaredTypes types =
      ((topLevel "complexType" types).map Entry.ofDeclared).map Entry.type := by
    rw [declaredTypes, List.map_map]
    rfl
  have hname : (fun t : ComplexType => t.name) ∘ Entry.type = Entry.name := funext Entry.name_type
  rw [complexTypes_collected, keptTypes, hdeclared, firsts_map, hname, entries, List.map_append,
    List.map_map]
  rfl

theorem nodup_typeNames_collected (types : Option Located) (strict : Bool) :
    (empty.collected strict types).typeNames.Nodup := by
  rw [typeNames_collected, List.nodup_append]
  refine ⟨nodup_firsts _ [] _, InlineType.nodup_granted _ _, fun s hs s' hs' he => ?_⟩
  obtain ⟨r, hr, rfl⟩ := List.mem_map.mp hs'
  exact InlineType.notMem_of_mem_granted hr (he ▸ hs)

lemma entries_cases {s : Entry} (h : s ∈ entries types) :
    (∃ n ∈ topLevel "complexType" types, s = .ofDeclared n) ∨
      ∃ r ∈ grantedTypes types, s = .ofInline r := by
  rcases List.mem_append.mp h with h | h
  · obtain ⟨n, hn, rfl⟩ := List.mem_map.mp (mem_of_mem_firsts _ h)
    exact Or.inl ⟨n, hn, rfl⟩
  · obtain ⟨r, hr, rfl⟩ := List.mem_map.mp h
    exact Or.inr ⟨r, hr, rfl⟩

/-- The nodes of all elements of the catalog, those at the top first, each with the namespace of its
schema. -/
def elementNodes (types : Option Located) : List (String × Located) :=
  topLevel "element" types ++
    (entries types).flatMap fun s => (ComplexType.memberNodes s.node).map (s.space, ·)

theorem declaredIn_of_mem_elementNodes {n : String × Located} (h : n ∈ elementNodes types) :
    Element.DeclaredIn types n.1 n.2 := by
  rcases List.mem_append.mp h with h | h
  · exact .top h
  · obtain ⟨s, hs, hn⟩ := List.mem_flatMap.mp h
    obtain ⟨m, hm, rfl⟩ := List.mem_map.mp hn
    rcases entries_cases hs with ⟨d, hd, rfl⟩ | ⟨r, hr, rfl⟩
    · exact .ofType hd hm
    · exact .ofInline (reached_of_granted hr) hm

/-- Before marking, every element of the catalog is as its node declares it. -/
theorem readFrom_heldElements (types : Option Located) (strict : Bool) :
    List.Forall₂ (fun n e => Element.ReadFrom n.1 n.2 e) (elementNodes types)
      (empty.collected strict types).heldElements := by
  rw [heldElements, elements_collected, complexTypes_eq_entries, elementNodes]
  refine List.rel_append ?_ ?_
  · rw [declaredElements, List.forall₂_map_right_iff, List.forall₂_same]
    exact fun n _ => Element.readFrom_ofDeclaration n.1 n.2
  · rw [List.flatMap_map]
    refine List.rel_flatMap (R := Eq) (List.forall₂_refl _) fun s s' hs => ?_
    subst hs
    rw [List.forall₂_map_left_iff]
    exact ComplexType.readFrom_read s.node s.space (some s.name)

end Catalog
end ServiceDescription.Schema
