import ServiceDescription.Proofs.Schema.Collected
import ServiceDescription.Proofs.Xml.Likeness

/-! Schemas that reading cannot tell apart give the same types. Whatever is read from a node is read
alike from a node that is like it: the components are equal, and the inline bodies, which are handed
on as nodes, are like one another in their turn. Of two schemas it is enough that they are alike kind
by kind, however the declarations of different kinds stand to one another. -/
namespace ServiceDescription.Schema
open Xml Lookup Likeness

variable {R : Located → Located → Prop} [Likeness R] {l l' : Located}

lemma reference?_eq (h : R l l') (attr : String) (ha : ⟨"", attr⟩ ∈ referenceNames)
    (space : String) : reference? l attr space = reference? l' attr space :=
  map_eq_of_rel (rel_attr? h attr ha) fun _ _ hsame => hsame space

/-- Two requests for one name, with bodies that are like one another. -/
structure InlineType.Like (R : Located → Located → Prop) (r r' : InlineType) : Prop where
  typeName : r.typeName = r'.typeName
  space : r.space = r'.space
  body : R r.body r'.body

/-- Two requests for one name, with bodies that say the same. -/
abbrev InlineType.Alike : InlineType → InlineType → Prop := InlineType.Like Located.Alike

namespace Element

lemma rel_inlineBody? (h : R l l') : Option.Rel R (inlineBody? l) (inlineBody? l') :=
  childNamed? h "complexType" (by decide) none

lemma inlineName_eq (h : R l l') : inlineName l = inlineName l' := by
  rw [inlineName, inlineName, attr_eq h "name" (by decide)]

theorem forall₂_inlineTypes (h : R l l') (space : String) :
    List.Forall₂ (InlineType.Like R) (inlineTypes l space) (inlineTypes l' space) := by
  rw [inlineTypes, inlineTypes]
  obtain ⟨hb, hb'⟩ | ⟨body, body', hb, hb', hbody⟩ := cases_of_rel (rel_inlineBody? h)
  · rw [hb, hb']
    exact .nil
  · rw [hb, hb']
    exact .cons ⟨inlineName_eq h, rfl, hbody⟩ .nil

theorem ofDeclaration_eq (h : R l l') (space : String) :
    ofDeclaration l space = ofDeclaration l' space := by
  have hinline : (inlineBody? l).isSome = (inlineBody? l').isSome :=
    isSome_eq_of_rel (rel_inlineBody? h)
  simp only [ofDeclaration, hinline, inlineName_eq h, reference?_eq h "type" (by decide),
    attr_eq h "name" (by decide), attr_eq h "nillable" (by decide),
    attr?_eq h "minOccurs" (by decide), attr?_eq h "maxOccurs" (by decide)]

end Element

namespace ComplexType

lemma rel_derivation? (h : R l l') (kind : String) (hkind : kind ∈ constructNames) :
    Option.Rel R (derivation? l kind) (derivation? l' kind) :=
  Likeness.rel_findSome? _ (by decide) fun model hmodel =>
    rel_bind (childNamed? h model hmodel none) fun _ _ hcontent =>
      childNamed? hcontent kind hkind none

lemma forall₂_memberHolders (h : R l l') :
    List.Forall₂ R (memberHolders l) (memberHolders l') := by
  have hkinds : List.Forall₂ (fun kind kind' => kind = kind' ∧ kind ∈ constructNames)
      ["extension", "restriction"] ["extension", "restriction"] :=
    List.forall₂_same.mpr (by decide)
  refine .cons h (List.rel_filterMap ?_ hkinds)
  rintro kind _ ⟨rfl, hkind⟩
  exact rel_derivation? h kind hkind

lemma rel_memberGroup? (h : R l l') : Option.Rel R (memberGroup? l) (memberGroup? l') :=
  Lookup.rel_findSome? (forall₂_memberHolders h) fun _ _ hholder =>
    Likeness.rel_findSome? _ (by decide) fun group hgroup => childNamed? hholder group hgroup none

theorem forall₂_memberNodes (h : R l l') : List.Forall₂ R (memberNodes l) (memberNodes l') := by
  rw [memberNodes, memberNodes]
  obtain ⟨hg, hg'⟩ | ⟨group, group', hg, hg', hgroup⟩ := cases_of_rel (rel_memberGroup? h)
  · rw [hg, hg']
    exact .nil
  · rw [hg, hg']
    exact childrenNamed hgroup "element" (by decide) none

lemma base?_eq (h : R l l') (space : String) : base? l space = base? l' space := by
  rw [base?, base?]
  obtain ⟨hd, hd'⟩ | ⟨d, d', hd, hd', hext⟩ :=
    cases_of_rel (rel_derivation? h "extension" (by decide))
  · rw [hd, hd']
  · rw [hd, hd']
    exact reference?_eq hext "base" (by decide) space

theorem ofDeclaration_eq (h : R l l') (space name : String) :
    ofDeclaration l space name = ofDeclaration l' space name := by
  have hmembers : (memberNodes l).map (Element.ofDeclaration · space) =
      (memberNodes l').map (Element.ofDeclaration · space) :=
    map_eq_of_forall₂ (forall₂_memberNodes h) fun _ _ hm => Element.ofDeclaration_eq hm space
  rw [ofDeclaration, ofDeclaration, hmembers, base?_eq h]

theorem value_read_eq (h : R l l') (space : String) (name : Option String) :
    (read l space name).value = (read l' space name).value := by
  simp only [read, ofDeclaration_eq h, attr_eq h "name" (by decide)]

theorem forall₂_inlineTypes (h : R l l') (space : String) :
    List.Forall₂ (InlineType.Like R) (inlineTypes l space) (inlineTypes l' space) :=
  List.rel_flatMap (forall₂_memberNodes h) fun _ _ hm => Element.forall₂_inlineTypes hm space

end ComplexType

theorem SimpleType.ofDeclaration_eq (h : R l l')
    (hrestriction : Option.Rel R (l.descendantNamed? "restriction" none)
      (l'.descendantNamed? "restriction" none)) (space : String) :
    ofDeclaration l space = ofDeclaration l' space := by
  rw [ofDeclaration, ofDeclaration, attr_eq h "name" (by decide)]
  obtain ⟨hr, hr'⟩ | ⟨r, r', hr, hr', hrestriction⟩ := cases_of_rel hrestriction
  · rw [hr, hr']
  · have hvalues : (r.childrenNamed "enumeration" none).filterMap (·.attr? "value") =
        (r'.childrenNamed "enumeration" none).filterMap (·.attr? "value") :=
      filterMap_eq_of_forall₂ (childrenNamed hrestriction "enumeration" (by decide) none)
        fun _ _ he => attr?_eq he "value" (by decide)
    rw [hr, hr']
    simp only [hvalues, reference?_eq hrestriction "base" (by decide)]

namespace InlineType
variable {r r' : InlineType}

theorem Like.built_eq (h : r.Like R r') : r.built = r'.built := by
  rw [built, built, h.typeName, h.space, ComplexType.value_read_eq h.body]

theorem Like.nested (h : r.Like R r') : List.Forall₂ (Like R) r.nested r'.nested := by
  rw [InlineType.nested, InlineType.nested, h.space]
  exact ComplexType.forall₂_inlineTypes h.body r'.space

/-- Whether a request is granted depends on names only. -/
theorem forall₂_granted {rs rs' : List InlineType} (h : List.Forall₂ (Like R) rs rs')
    (taken : List String) : List.Forall₂ (Like R) (granted taken rs) (granted taken rs') := by
  -- both lists ask for the same names, so the same requests are granted and passed over
  induction taken, rs using granted.induct generalizing rs' with
  | case1 taken =>
    cases h
    rw [granted]
    exact .nil
  | case2 taken r rest hr ih =>
    cases h with
    | cons hhead htail =>
      rw [granted_of_mem hr, granted_of_mem (hhead.typeName ▸ hr)]
      exact ih htail
  | case3 taken r rest hr ih =>
    cases h with
    | cons hhead htail =>
      rw [granted_of_notMem hr, granted_of_notMem (hhead.typeName ▸ hr), ← hhead.typeName]
      exact .cons hhead (ih (List.rel_append hhead.nested htail))

end InlineType

namespace Fragment

/-- The kinds of declarations that a schema is read for. -/
def kinds : List String := ["import", "complexType", "simpleType", "element"]

/-- Two schemas with one target namespace that declare alike, kind by kind. -/
structure Like (R : Located → Located → Prop) (l l' : Located) : Prop where
  targetNamespace_eq : targetNamespace l = targetNamespace l'
  childrenNamed : ∀ kind ∈ kinds,
    List.Forall₂ R (l.childrenNamed kind none) (l'.childrenNamed kind none)

lemma like_of_rel (h : R l l') : Like R l l' where
  targetNamespace_eq := attr_eq h "targetNamespace" (by decide)
  childrenNamed kind hkind := Likeness.childrenNamed h kind (by revert kind; decide) none

theorem Like.values_declarations_eq (h : Like R l l') :
    (declarations l).map (·.value) = (declarations l').map (·.value) := by
  have himports : importedNamespaces l = importedNamespaces l' := by
    rw [importedNamespaces, importedNamespaces,
      map_eq_of_forall₂ (h.childrenNamed "import" (by decide)) fun _ _ hi =>
        attr_eq hi "namespace" (by decide)]
  have hsimple := (List.forall₂_and_left _ _).mpr
    ⟨fun _ ht => Located.localName_of_named ht, h.childrenNamed "simpleType" (by decide)⟩
  rw [values_declarations, values_declarations, himports, h.targetNamespace_eq]
  congr 1
  · congr 1
    · congr 1
      exact map_eq_of_forall₂ (h.childrenNamed "complexType" (by decide)) fun _ _ ht =>
        congrArg Declaration.complexType (ComplexType.value_read_eq ht _ none)
    · exact map_eq_of_forall₂ hsimple fun _ _ ht => congrArg Declaration.simpleType
        (SimpleType.ofDeclaration_eq ht.2 (restriction? ht.2 ht.1) _)
  · exact map_eq_of_forall₂ (h.childrenNamed "element" (by decide)) fun _ _ he =>
      congrArg Declaration.element (Element.ofDeclaration_eq he _)

theorem Like.forall₂_inlineTypes (h : Like R l l') :
    List.Forall₂ (InlineType.Like R) (inlineTypes l) (inlineTypes l') := by
  rw [inlineTypes, inlineTypes, h.targetNamespace_eq]
  refine List.rel_append ?_ ?_
  · exact List.rel_flatMap (h.childrenNamed "complexType" (by decide)) fun _ _ ht =>
      ComplexType.forall₂_inlineTypes ht _
  · exact List.rel_flatMap (h.childrenNamed "element" (by decide)) fun _ _ he =>
      Element.forall₂_inlineTypes he _

end Fragment

namespace Catalog
variable {types types' : Option Located}

lemma forall₂_schemasOf (h : Option.Rel R types types') :
    List.Forall₂ (Fragment.Like R) (schemasOf types) (schemasOf types') := by
  cases h with
  | none => exact .nil
  | some hl =>
    exact (childrenNamed hl "schema" (by decide) none).imp fun _ _ hs => Fragment.like_of_rel hs

variable (h : List.Forall₂ (Fragment.Like R) (schemasOf types) (schemasOf types'))
include h

lemma sectionContents_eq : sectionContents false types = sectionContents false types' := by
  have hcontents : (schemasOf types).map (Fragment.contents false) =
      (schemasOf types').map (Fragment.contents false) :=
    map_eq_of_forall₂ h fun _ _ hl => hl.values_declarations_eq
  rw [sectionContents, sectionContents, List.flatMap_def, List.flatMap_def, hcontents]

/-- Of two sections the schemas decide, one by one. -/
theorem collected_eq (c : Catalog) : c.collected false types = c.collected false types' := by
  have hpending : List.Forall₂ (InlineType.Like R) (pendingTypes types) (pendingTypes types') :=
    List.rel_flatMap h fun _ _ hl => hl.forall₂_inlineTypes
  rw [collected, collected, sectionContents_eq h]
  simp only [map_eq_of_forall₂ (InlineType.forall₂_granted hpending _) fun _ _ hr => hr.built_eq]

end Catalog
end ServiceDescription.Schema
