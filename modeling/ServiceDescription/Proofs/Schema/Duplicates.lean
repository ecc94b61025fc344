import ServiceDescription.Proofs.Schema.Alike
import ServiceDescription.Proofs.Schema.Coverage
import ServiceDescription.Proofs.Schema.Precedence
import ServiceDescription.Proofs.Xml.Spot

/-! Declared types whose name is taken. A types section is compared with the same section without
such a type. The declarations that are kept are the same, but the inline bodies in the type that is
dropped are promoted with all others, and so may leave their mark on the catalog. -/
namespace ServiceDescription.Schema
open Xml

namespace InlineType

theorem granted_append (taken : List String) (rs ss : List InlineType) :
    granted taken (rs ++ ss) =
      granted taken rs ++ granted (taken ++ (granted taken rs).map (·.typeName)) ss := by
  induction taken, rs using granted.induct with
  | case1 taken => simp [granted]
  | case2 taken r rest hr ih => rw [List.cons_append, granted_of_mem hr, granted_of_mem hr, ih]
  | case3 taken r rest hr ih =>
    rw [List.cons_append, granted_of_notMem hr, granted_of_notMem hr, ← List.append_assoc, ih]
    simp

/-- Requests none of which is granted might as well not be there. -/
lemma granted_drop {taken : List String} {rs ss us : List InlineType}
    (h : granted (taken ++ (granted taken rs).map (·.typeName)) ss = []) :
    granted taken (rs ++ (ss ++ us)) = granted taken (rs ++ us) := by
  rw [granted_append, granted_append _ ss, h, granted_append _ rs us]
  simp

lemma Alike.refl (r : InlineType) : r.Alike r :=
  ⟨rfl, rfl, .refl r.body⟩

lemma within_of_mem_granted {taken : List String} {l : Located} {uri : String} {r : InlineType}
    (h : r ∈ granted taken (ComplexType.inlineTypes l uri)) : r.body.Within l := by
  obtain ⟨q, hq, hr⟩ := within_of_mem_depthFirst (granted_subset_depthFirst _ _ h)
  exact Located.Within.trans hr (ComplexType.below_of_mem_inlineTypes hq).within

end InlineType

namespace Catalog

/-- A complex type under a name that has been declared before is not kept. -/
lemma insertAll_duplicate {ds es : List Declaration} {t : ComplexType}
    (h : t.name ∈ (ds.filterMap Declaration.complexType?).map (·.name)) :
    empty.insertAll (ds ++ .complexType t :: es) = empty.insertAll (ds ++ es) := by
  have hnames : (empty.insertAll ds).hasComplexType t.name = true := by
    rw [hasComplexType_iff, typeNames, complexTypes_insertAll]
    show t.name ∈ (firsts (·.name) [] (ds.filterMap Declaration.complexType?)).map (·.name)
    rw [keys_firsts, List.mem_eraseDups]
    simpa using h
  rw [insertAll_append, insertAll_cons, insert, if_pos hnames, insertAll_append]

end Catalog

/-- The second node is the first one without its child `d`: the children `ahead` of it are common,
those behind it say the same. -/
def Lacks (ahead : List Located) (l l' d : Located) : Prop :=
  ∃ b b', List.Forall₂ Located.Alike b b' ∧ l.children = ahead ++ d :: b ∧ l'.children = ahead ++ b'

namespace Lacks
variable {ahead : List Located} {l l' d : Located}

lemma forall₂_self (ls : List Located) : List.Forall₂ Located.Alike ls ls :=
  List.forall₂_same.mpr fun l _ => .refl l

/-- Children of another name are not affected. -/
lemma childrenNamed_ne (h : Lacks ahead l l' d) (name : String) (hd : d.localName ≠ name) :
    List.Forall₂ Located.Alike (l.childrenNamed name none) (l'.childrenNamed name none) := by
  obtain ⟨b, b', hbehind, hl, hl'⟩ := h
  have hname : ¬Located.hasName name none d = true := by simp [Located.hasName, hd]
  rw [Located.childrenNamed, Located.childrenNamed, hl, hl', List.filter_append,
    List.filter_append, List.filter_cons_of_neg hname]
  refine List.rel_append (forall₂_self _) ?_
  exact Located.Alike.forall₂_filter hbehind name none

lemma childrenNamed (h : Lacks ahead l l' d) {name : String} (hd : d.localName = name) :
    ∃ b b', List.Forall₂ Located.Alike b b' ∧
      l.childrenNamed name none = ahead.filter (Located.hasName name none) ++ d :: b ∧
      l'.childrenNamed name none = ahead.filter (Located.hasName name none) ++ b' := by
  obtain ⟨b, b', hbehind, hl, hl'⟩ := h
  have hname : Located.hasName name none d = true := by simp [Located.hasName, hd]
  refine ⟨_, _, Located.Alike.forall₂_filter hbehind name none, ?_, ?_⟩
  · rw [Located.childrenNamed, hl, List.filter_append, List.filter_cons_of_pos hname]
  · rw [Located.childrenNamed, hl', List.filter_append]

variable (h : Lacks ahead l l' d) (hspace : targetNamespace l = targetNamespace l')
  (hd : d.localName = "complexType")
include h hspace hd

/-- What a schema declares without one of its complex types. -/
lemma contents_eq :
    ∃ ds es : List Declaration,
      Fragment.contents false l =
        ds ++ .complexType (ComplexType.read d (targetNamespace l) none).value :: es ∧
      Fragment.contents false l' = ds ++ es ∧
      ds.filterMap Declaration.complexType? =
        (ahead.filter (Located.hasName "complexType" none)).map fun t =>
          (ComplexType.read t (targetNamespace l) none).value := by
  obtain ⟨b, b', hbehind, hl, hl'⟩ := h.childrenNamed hd
  have himports : Fragment.importedNamespaces l = Fragment.importedNamespaces l' := by
    rw [Fragment.importedNamespaces, Fragment.importedNamespaces,
      Lookup.map_eq_of_forall₂ (h.childrenNamed_ne "import" (by rw [hd]; decide))
        fun _ _ hi => hi.attr_eq "namespace" (by decide)]
  have htypes : b.map (fun t => Declaration.complexType
        (ComplexType.read t (targetNamespace l) none).value) =
      b'.map fun t => .complexType (ComplexType.read t (targetNamespace l) none).value :=
    Lookup.map_eq_of_forall₂ hbehind fun _ _ ht =>
      congrArg Declaration.complexType (ComplexType.value_read_eq ht _ none)
  have hsimple := Lookup.map_eq_of_forall₂
    (h.childrenNamed_ne "simpleType" (by rw [hd]; decide)) fun _ _ ht =>
      congrArg Declaration.simpleType (SimpleType.ofDeclaration_eq ht
        (ht.descendantNamed? "restriction" none) (targetNamespace l))
  have helements := Lookup.map_eq_of_forall₂
    (h.childrenNamed_ne "element" (by rw [hd]; decide)) fun _ _ he =>
      congrArg Declaration.element (Element.ofDeclaration_eq he (targetNamespace l))
  refine ⟨(Fragment.importedNamespaces l).map .importedNamespace ++
      (ahead.filter (Located.hasName "complexType" none)).map
        (fun t => .complexType (ComplexType.read t (targetNamespace l) none).value),
    b.map (fun t => .complexType (ComplexType.read t (targetNamespace l) none).value) ++
      ((l.childrenNamed "simpleType" none).map
        (fun t => .simpleType (SimpleType.ofDeclaration t (targetNamespace l))) ++
      (l.childrenNamed "element" none).map
        (fun e => .element (Element.ofDeclaration e (targetNamespace l)))), ?_, ?_, ?_⟩
  · rw [Fragment.contents, Fragment.values_declarations, hl]
    simp
  · rw [Fragment.contents, Fragment.values_declarations, hl', ← hspace, ← himports, htypes, hsimple,
      helements]
    simp
  · simp [List.filterMap_map, Function.comp_def, Declaration.complexType?]

/-- The inline bodies of a schema without one of its complex types. -/
lemma inlineTypes_eq :
    ∃ rs us us' : List InlineType, List.Forall₂ InlineType.Alike us us' ∧
      Fragment.inlineTypes l = rs ++ (ComplexType.inlineTypes d (targetNamespace l) ++ us) ∧
      Fragment.inlineTypes l' = rs ++ us' := by
  obtain ⟨b, b', hbehind, hl, hl'⟩ := h.childrenNamed hd
  refine ⟨(ahead.filter (Located.hasName "complexType" none)).flatMap
      (ComplexType.inlineTypes · (targetNamespace l)), _, _, List.rel_append
      (List.rel_flatMap hbehind fun _ _ ht =>
        ComplexType.forall₂_inlineTypes ht (targetNamespace l))
      (List.rel_flatMap (h.childrenNamed_ne "element" (by rw [hd]; decide))
        fun _ _ he => Element.forall₂_inlineTypes he (targetNamespace l)), ?_, ?_⟩
  · rw [Fragment.inlineTypes, hl]
    simp
  · rw [Fragment.inlineTypes, hl', ← hspace]
    simp

end Lacks

lemma Lacks.of_spot (s : Spot) {n : Node} (hn : (s.nodeAt n).localName = "complexType") :
    Lacks (s.parentAt s.ahead).children (s.parentWith [n]) (s.parentWith []) (s.nodeAt n) := by
  refine s.exists_children_parentWith ?_
  cases n with
  | text value =>
    have hempty : "" = "complexType" := hn
    exact absurd hempty (by decide)
  | _ => rfl

namespace Catalog

lemma typeNames_declared (types : Option Located) :
    (empty.insertAll (sectionContents false types)).typeNames = (keptTypes types).map (·.name) := by
  rw [typeNames, complexTypes_insertAll, complexTypes_sectionContents, keptTypes]
  rfl

lemma collected_eq_withTypes (types : Option Located) :
    empty.collected false types = (empty.insertAll (sectionContents false types)).withTypes
      ((grantedTypes types).map (·.built)) := by
  rw [collected, typeNames_declared, grantedTypes]

section Filled
variable {s : Spot} {n : Node}

lemma schemasOf_filled (hparent : s.parent.name.localName = "schema") (ns : List Node) :
    schemasOf (some (s.filled ns)) = s.childrenBefore.filter (Located.hasName "schema" none) ++
      s.parentWith ns :: s.childrenAfter.filter (Located.hasName "schema" none) := by
  have hname : Located.hasName "schema" none (s.parentWith ns) = true := by
    simp [Located.hasName, Spot.parentWith, Spot.parentAt, Located.localName, hparent]
  rw [schemasOf, Located.childrenNamed, s.children_filled, List.filter_append,
    List.filter_cons_of_pos hname]

lemma schemasOf_cutOff (hparent : s.parent.name.localName = "schema") :
    schemasOf (some s.cutOff) =
      s.childrenBefore.filter (Located.hasName "schema" none) ++ [s.parentAt s.ahead] := by
  have hname : Located.hasName "schema" none (s.parentAt s.ahead) = true := by
    simp [Located.hasName, Spot.parentAt, Located.localName, hparent]
  rw [schemasOf, Located.childrenNamed, s.children_cutOff, List.filter_append,
    List.filter_cons_of_pos hname, List.filter_nil]

variable (hparent : s.parent.name.localName = "schema")
  (hn : (s.nodeAt n).localName = "complexType")
include hparent hn

/-- A complex type whose name is declared ahead of it leaves nothing of its own in the catalog. -/
lemma insertAll_filled
    (hname : ∃ d ∈ topLevel "complexType" (some s.cutOff),
      d.2.attr "name" = (s.nodeAt n).attr "name") :
    empty.insertAll (sectionContents false (some (s.filled [n]))) =
      empty.insertAll (sectionContents false (some (s.filled []))) := by
  obtain ⟨ds, es, hds, hds', htypes⟩ := (Lacks.of_spot s hn).contents_eq rfl hn
  let before := (s.childrenBefore.filter (Located.hasName "schema" none)).flatMap
    (Fragment.contents false)
  let after := (s.childrenAfter.filter (Located.hasName "schema" none)).flatMap
    (Fragment.contents false)
  let type := (ComplexType.read (s.nodeAt n) (targetNamespace (s.parentWith [n])) none).value
  have hfull : sectionContents false (some (s.filled [n])) =
      (before ++ ds) ++ .complexType type :: (es ++ after) := by
    rw [sectionContents, schemasOf_filled hparent, List.flatMap_append, List.flatMap_cons, hds]
    simp only [List.append_assoc, List.cons_append, before, after, type]
  have hcut : sectionContents false (some (s.filled [])) = (before ++ ds) ++ (es ++ after) := by
    rw [sectionContents, schemasOf_filled hparent, List.flatMap_append, List.flatMap_cons, hds']
    simp only [List.append_assoc, before, after]
  have hahead : (before ++ ds).filterMap Declaration.complexType? =
      declaredTypes (some s.cutOff) := by
    rw [← complexTypes_sectionContents false, sectionContents, schemasOf_cutOff hparent,
      List.flatMap_append, List.filterMap_append, List.filterMap_append, htypes,
      List.flatMap_singleton, Fragment.complexTypes_contents]
    rfl
  rw [hfull, hcut]
  refine insertAll_duplicate ?_
  rw [hahead, names_declaredTypes, ComplexType.name_read]
  exact List.mem_map.mpr hname

/-- The requests with and without the complex type in the gap: its own requests stand between
common ones and such as ask for the same. -/
lemma pendingTypes_filled :
    ∃ rs us us' : List InlineType, List.Forall₂ InlineType.Alike us us' ∧
      pendingTypes (some (s.filled [n])) =
        rs ++ (ComplexType.inlineTypes (s.nodeAt n) (targetNamespace (s.parentWith [n])) ++ us) ∧
      pendingTypes (some (s.filled [])) = rs ++ us' := by
  obtain ⟨rs, us, us', hus, hrs, hrs'⟩ := (Lacks.of_spot s hn).inlineTypes_eq rfl hn
  have hafter : List.Forall₂ InlineType.Alike
      ((s.childrenAfter.filter (Located.hasName "schema" none)).flatMap Fragment.inlineTypes)
      ((s.childrenAfter.filter (Located.hasName "schema" none)).flatMap Fragment.inlineTypes) :=
    List.forall₂_same.mpr fun r _ => .refl r
  refine ⟨(s.childrenBefore.filter (Located.hasName "schema" none)).flatMap
    Fragment.inlineTypes ++ rs, _, _, List.rel_append hus hafter, ?_, ?_⟩
  · rw [pendingTypes, schemasOf_filled hparent, List.flatMap_append, List.flatMap_cons, hrs]
    simp only [List.append_assoc]
  · rw [pendingTypes, schemasOf_filled hparent, List.flatMap_append, List.flatMap_cons, hrs']
    simp only [List.append_assoc]

/-- Where promotion grants no body in the complex type in the gap, it grants the same as without
this type. -/
lemma forall₂_granted_filled {taken : List String}
    (h : ∀ r ∈ InlineType.granted taken (pendingTypes (some (s.filled [n]))),
      ¬r.body.Within (s.nodeAt n)) :
    List.Forall₂ InlineType.Alike (InlineType.granted taken (pendingTypes (some (s.filled [n]))))
      (InlineType.granted taken (pendingTypes (some (s.filled [])))) := by
  obtain ⟨rs, us, us', hus, hfull, hcut⟩ := pendingTypes_filled hparent hn
  -- what is granted of its own requests is granted to the section, and so there is none
  have hown : InlineType.granted (taken ++ (InlineType.granted taken rs).map (·.typeName))
      (ComplexType.inlineTypes (s.nodeAt n) (targetNamespace (s.parentWith [n]))) = [] := by
    refine List.eq_nil_iff_forall_not_mem.mpr fun r hr => h r ?_ (InlineType.within_of_mem_granted hr)
    rw [hfull, InlineType.granted_append, InlineType.granted_append _ (ComplexType.inlineTypes _ _)]
    exact List.mem_append_right _ (List.mem_append_left _ hr)
  rw [hfull, hcut, InlineType.granted_drop hown]
  have hcommon : List.Forall₂ InlineType.Alike rs rs :=
    List.forall₂_same.mpr fun r _ => .refl r
  exact InlineType.forall₂_granted (List.rel_append hcommon hus) taken

lemma names_keptTypes_filled
    (hname : ∃ d ∈ topLevel "complexType" (some s.cutOff),
      d.2.attr "name" = (s.nodeAt n).attr "name") :
    (keptTypes (some (s.filled [n]))).map (·.name) =
      (keptTypes (some (s.filled []))).map (·.name) := by
  rw [← typeNames_declared, ← typeNames_declared, insertAll_filled hparent hn hname]

end Filled

/-- Two sections that leave the same catalog and declare the same names ask for the same names. -/
lemma exists_reached_of_markReferences_eq {types types' : Option Located}
    (hnames : (keptTypes types).map (·.name) = (keptTypes types').map (·.name))
    (h : (empty.collected false types).markReferences =
      (empty.collected false types').markReferences) {r : InlineType}
    (hr : r ∈ grantedTypes types) : ∃ q : InlineType, q.Reached types' ∧ q.typeName = r.typeName := by
  have htypeNames := congrArg typeNames h
  rw [typeNames_markReferences, typeNames_markReferences, typeNames_collected, typeNames_collected,
    hnames, List.append_cancel_left_eq] at htypeNames
  have hmem : r.typeName ∈ (grantedTypes types').map (·.typeName) :=
    htypeNames ▸ List.mem_map_of_mem hr
  obtain ⟨q, hq, he⟩ := List.mem_map.mp hmem
  exact ⟨q, reached_of_granted hq, he⟩

/-- Reading a types section with a declared complex type whose name an earlier one has, and without
it. The declarations leave the same in both catalogs; then each gets the types that promotion grants
for its own section. So the dropped type leaves no trace as long as none of the inline bodies in it
is promoted; and a promoted one leaves a trace whenever no other inline body asks for its name. -/
theorem addTypes_dropDuplicate {types schema dup : Located}
    (hschema : schema ∈ schemasOf (some types))
    (hdup : dup ∈ schema.childrenNamed "complexType" none) :
    (∃ s : Spot, s.Frames types dup) ∧
      ∀ s : Spot, s.Frames types dup →
        (∃ n ∈ topLevel "complexType" (some s.cutOff), n.2.attr "name" = dup.attr "name") →
        ∃ declared full rest : Catalog,
          (empty.addTypes false (some types)).outcome = .ok full ∧
          (empty.addTypes false (some (s.filled []))).outcome = .ok rest ∧
          full = (declared.withTypes ((grantedTypes (some types)).map (·.built))).markReferences ∧
          rest = (declared.withTypes
            ((grantedTypes (some (s.filled []))).map (·.built))).markReferences ∧
          ((∀ r ∈ grantedTypes (some types), ¬r.body.Within dup) → full = rest) ∧
          ∀ r ∈ grantedTypes (some types), r.body.Within dup →
            (∀ q : InlineType, q.Reached (some (s.filled [])) → q.typeName ≠ r.typeName) →
            full ≠ rest := by
  have hchild := Located.mem_children_of_named hschema
  have hbody := Located.mem_children_of_named hdup
  refine ⟨exists_frames hchild hbody, fun s hframes hname => ?_⟩
  -- `dup` becomes a node in the gap of `s`, so both sections are `s.filled`
  obtain rfl := hframes.parent_eq hchild hbody
  obtain ⟨rfl, hhere⟩ := hframes
  generalize dup.node = n at hhere hschema hdup hname
  subst hhere
  have hparent : s.parent.name.localName = "schema" := Located.localName_of_named hschema
  have hn : (s.nodeAt n).localName = "complexType" := Located.localName_of_named hdup
  have hdeclared := insertAll_filled hparent hn hname
  have hnames := names_keptTypes_filled hparent hn hname
  refine ⟨empty.insertAll (sectionContents false (some (s.filled []))), _, _,
    outcome_addTypes rfl false _, outcome_addTypes rfl false _, ?_, ?_, ?_, ?_⟩
  · rw [collected_eq_withTypes, hdeclared]
  · rw [collected_eq_withTypes]
  · intro hnone
    have hgranted := forall₂_granted_filled hparent hn hnone
    rw [collected_eq_withTypes, collected_eq_withTypes, hdeclared, grantedTypes, grantedTypes,
      ← hnames, Lookup.map_eq_of_forall₂ hgranted fun _ _ hr => hr.built_eq]
  · intro r hr _ hfresh he
    -- equal catalogs have equal names, so the name of `r` is asked for without `dup` too
    obtain ⟨q, hq, hname⟩ := exists_reached_of_markReferences_eq hnames he hr
    exact hfresh q hq hname

/-- A schema with a complex type `Order`, with a gap behind it, and then one more type. -/
def orderedTwice : Spot where
  path := []
  outer := []
  root := { name := ⟨"", "types"⟩, declarations := [], attributes := [] }
  before := []
  parent :=
    { name := ⟨"", "schema"⟩
      declarations := []
      attributes := [{ name := ⟨"", "targetNamespace"⟩, value := "urn:a" }] }
  ahead := [.plain "complexType" [("name", "Order")] []]
  behind := [.plain "complexType" [("name", "ItemType")] []]
  after := []

/-- A second `Order`, with an inline body under a name to choose. -/
def secondOrder (member : String) : Node :=
  .plain "complexType" [("name", "Order")] [.plain "sequence" [] [
    .plain "element" [("name", member)] [.plain "complexType" [] []]]]

/-- The name asked for in the second `Order` is a declared one, so this type leaves no trace. -/
theorem addTypes_dropDuplicate_secondOrder :
    ∃ d : Catalog,
      (empty.addTypes false (some (orderedTwice.filled [secondOrder "Item"]))).outcome = .ok d ∧
      (empty.addTypes false (some (orderedTwice.filled []))).outcome = .ok d := by
  have hschema : orderedTwice.parentWith [secondOrder "Item"] ∈
      schemasOf (some (orderedTwice.filled [secondOrder "Item"])) := List.mem_cons_self
  have hdup : orderedTwice.nodeAt (secondOrder "Item") ∈
      (orderedTwice.parentWith [secondOrder "Item"]).childrenNamed "complexType" none :=
    List.mem_cons_of_mem _ List.mem_cons_self
  have hnone : ∀ r ∈ grantedTypes (some (orderedTwice.filled [secondOrder "Item"])),
      ¬r.body.Within (orderedTwice.nodeAt (secondOrder "Item")) := by decide +kernel
  obtain ⟨-, hdrop⟩ := addTypes_dropDuplicate hschema hdup
  obtain ⟨-, full, rest, hfull, hrest, -, -, hsame, -⟩ :=
    hdrop orderedTwice ⟨rfl, rfl⟩ ⟨_, List.mem_cons_self, rfl⟩
  exact ⟨full, hfull, hsame hnone ▸ hrest⟩

/-- A type is built from the inline body in the second `Order`, although an `Order` is declared
ahead of it and its own declaration is dropped. -/
theorem secondOrder_leavesTrace :
    orderedTwice.nodeAt (secondOrder "Line") ∈
        (orderedTwice.parentWith [secondOrder "Line"]).childrenNamed "complexType" none ∧
      (∃ n ∈ topLevel "complexType" (some orderedTwice.cutOff),
        n.2.attr "name" = (orderedTwice.nodeAt (secondOrder "Line")).attr "name") ∧
      ∃ full rest : Catalog,
        (empty.addTypes false (some (orderedTwice.filled [secondOrder "Line"]))).outcome =
          .ok full ∧
        (empty.addTypes false (some (orderedTwice.filled []))).outcome = .ok rest ∧
        full.typeNames = ["Order", "ItemType", "LineType"] ∧
        rest.typeNames = ["Order", "ItemType"] := by
  refine ⟨List.mem_cons_of_mem _ List.mem_cons_self, ⟨_, List.mem_cons_self, rfl⟩, _, _,
    outcome_addTypes rfl false _, outcome_addTypes rfl false _, ?_, ?_⟩
  · rw [typeNames_markReferences, typeNames_collected]
    decide +kernel
  · rw [typeNames_markReferences, typeNames_collected]
    decide +kernel

end Catalog
end ServiceDescription.Schema
