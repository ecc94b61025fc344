import ServiceDescription.Proofs.Schema.Faithful

/-! What becomes of names when a schema is copied out of its document. At the root of the copy every
prefix means what it means in the document. Below the root a declaration is dropped when its
namespace has a prefix there already, and prefixes are declared again on the children of the root;
so a prefix changes its meaning where it is declared for a namespace that goes by other prefixes in
the copy, or where it is put on a child that had none, and it stays changed until it is declared
again. All names whose prefixes do not change keep their meaning. -/
namespace ServiceDescription

namespace Xml.QualifiedName
variable {scope scope' : Scope}

lemma pre?_of_notMem {raw : String} (h : ':' ∉ Text.trimChars raw.toList) : pre? raw = none := by
  simp only [pre?, dropWhile_eq_nil h]

/-- A name is resolved alike in two scopes if they give its prefix the same namespace. -/
lemma same_iff {raw : String} :
    Same scope scope' raw raw ↔
      ∀ pre ∈ pre? raw, namespaceOf scope pre = namespaceOf scope' pre := by
  constructor
  · intro h pre hpre
    obtain hnone | ⟨p, rest, hp, hs⟩ := cases_colon raw
    · cases (pre?_of_notMem hnone).symm.trans hpre
    · rw [pre?_of_colon hs hp] at hpre
      obtain rfl := Option.some.inj hpre
      have hresolve := h ""
      rw [resolve_of_colon hs hp, resolve_of_colon hs hp] at hresolve
      exact congrArg ExpandedName.space hresolve
  · exact same_of_renamed (f := .refl) (renamed_refl raw).symm

end Xml.QualifiedName

namespace Schema
open Xml

lemma localName_standalone (l : Located) : (standalone l).localName = l.localName := by
  obtain ⟨path, outer, node⟩ := l
  cases node <;> rfl

lemma space_standalone (l : Located) : (standalone l).space = l.space := by
  obtain ⟨path, outer, node⟩ := l
  cases node <;> rfl

/-- At the root of the copy every prefix means what it means in the document. -/
theorem scope_standalone_agree (l : Located) : (standalone l).scope.Agree l.scope := by
  obtain ⟨path, outer, node⟩ := l
  cases node with
  | element tag content =>
    have hscope : (standalone ⟨path, outer, .element tag content⟩).scope =
        (tag.declarations ++ outer).visible := List.append_nil _
    rw [hscope]
    exact Scope.agree_visible _
  | _ => exact Scope.Agree.refl _

/-- A prefix changes its meaning on the way from a schema to a node. Its declaration is dropped,
since its namespace has a prefix already where the node is put, and neither what is declared again
nor what is around the node in the copy gives it this prefix; or it is not declared in the document,
but in the copy; or it has changed before and is not declared again. -/
inductive Changed (l : Located) (pre : String) : List ℕ → Prop
  | dropped {path : List ℕ} {i : ℕ} {n m' : Located} {v : Arrival} {uri : String}
      (hn : l.descend (path ++ [i]) = some n) (hm' : (standalone l).descend path = some m')
      (hv : arrival? l (path ++ [i]) = some v) (hdeclared : n.declarations.namespace? pre = some uri)
      (hknown : v.knows uri = true)
      (hother : (v.redeclared ++ m'.scope).namespace? pre ≠ some uri) : Changed l pre (path ++ [i])
  | added {path : List ℕ} {n : Located} {v : Arrival} {uri : String}
      (hn : l.descend path = some n) (hv : arrival? l path = some v)
      (helement : n.isElement = true) (hdeclared : n.declarations.namespace? pre = none)
      (hadded : v.redeclared.namespace? pre = some uri) : Changed l pre path
  | before {path : List ℕ} {i : ℕ} {n : Located} (hchanged : Changed l pre path)
      (hn : l.descend (path ++ [i]) = some n) (helement : n.isElement = true)
      (hdeclared : n.declarations.namespace? pre = none) : Changed l pre (path ++ [i])

section Changed
variable {l n m' : Located} {v : Arrival} {path : List ℕ} {i : ℕ} {pre uri : String}

lemma not_changed_nil : ¬Changed l pre [] := by
  intro h
  generalize hpath : ([] : List ℕ) = path at h
  cases h with
  | dropped _ _ _ _ _ _ => simp at hpath
  | added _ hv _ _ _ =>
    rw [← hpath] at hv
    cases hv
  | before _ _ _ _ => simp at hpath

/-- Only elements have prefixes to change. -/
lemma exists_of_changed (h : Changed l pre path) :
    ∃ n, l.descend path = some n ∧ n.isElement = true := by
  cases h with
  | dropped hn _ _ hdeclared _ _ => exact ⟨_, hn, Located.isElement_of_declares hdeclared⟩
  | added hn _ helement _ _ => exact ⟨_, hn, helement⟩
  | before _ hn helement _ => exact ⟨_, hn, helement⟩

/-- Where the prefix is declared, it is changed if its declaration is dropped and not made up for. -/
lemma changed_iff_of_declares (hn : l.descend (path ++ [i]) = some n)
    (hm' : (standalone l).descend path = some m') (hv : arrival? l (path ++ [i]) = some v)
    (hdeclared : n.declarations.namespace? pre = some uri) :
    Changed l pre (path ++ [i]) ↔
      v.knows uri = true ∧ (v.redeclared ++ m'.scope).namespace? pre ≠ some uri := by
  constructor
  · intro h
    generalize hpath : path ++ [i] = path' at h
    cases h with
    | dropped hn₂ hm₂' hv₂ hdeclared₂ hknown hother =>
      obtain ⟨rfl, hi⟩ := List.append_inj' hpath rfl
      obtain rfl := List.singleton_inj.mp hi
      obtain rfl := Option.some.inj (hn.symm.trans hn₂)
      obtain rfl := Option.some.inj (hm'.symm.trans hm₂')
      obtain rfl := Option.some.inj (hv.symm.trans hv₂)
      obtain rfl := Option.some.inj (hdeclared.symm.trans hdeclared₂)
      exact ⟨hknown, hother⟩
    | added hn₂ _ _ hnone _ =>
      obtain rfl := Option.some.inj (hn.symm.trans (hpath ▸ hn₂))
      cases hdeclared.symm.trans hnone
    | before _ hn₂ _ hnone =>
      obtain rfl := Option.some.inj (hn.symm.trans (hpath ▸ hn₂))
      cases hdeclared.symm.trans hnone
  · rintro ⟨hknown, hother⟩
    exact .dropped hn hm' hv hdeclared hknown hother

/-- Where the prefix is not declared, it is changed if the copy declares it or if it was changed
before. -/
lemma changed_iff_of_not_declares (hn : l.descend (path ++ [i]) = some n)
    (hv : arrival? l (path ++ [i]) = some v) (helement : n.isElement = true)
    (hdeclared : n.declarations.namespace? pre = none) :
    Changed l pre (path ++ [i]) ↔
      v.redeclared.namespace? pre ≠ none ∨ Changed l pre path := by
  constructor
  · intro h
    generalize hpath : path ++ [i] = path' at h
    cases h with
    | dropped hn₂ _ _ hdeclared₂ _ _ =>
      obtain rfl := Option.some.inj (hn.symm.trans (hpath ▸ hn₂))
      cases hdeclared.symm.trans hdeclared₂
    | added _ hv₂ _ _ hadded =>
      obtain rfl := Option.some.inj (hv.symm.trans (hpath ▸ hv₂))
      exact .inl (Option.ne_none_iff_exists'.mpr ⟨_, hadded⟩)
    | before hchanged _ _ _ =>
      obtain ⟨rfl, -⟩ := List.append_inj' hpath rfl
      exact .inr hchanged
  · rintro (hadded | hchanged)
    · obtain ⟨uri, hadded⟩ := Option.ne_none_iff_exists'.mp hadded
      exact .added hn hv helement hdeclared hadded
    · exact .before hchanged hn helement hdeclared

end Changed

section Names
variable {l n n' : Located} {v : Arrival} {path : List ℕ} {i : ℕ}

/-- What a prefix means at an element of the copy: the declaration of the element counts if it is
left, then what is declared again, then what is around the element. -/
lemma namespace?_scope (honce : DeclaresOnce l) (hn : l.descend (path ++ [i]) = some n)
    (h : Counterpart n v n') (helement : n.isElement = true) (pre : String) :
    n'.scope.namespace? pre =
      ((n.declarations.namespace? pre).filter fun uri => !v.knows uri).or
        ((v.redeclared.namespace? pre).or (n'.outer.namespace? pre)) := by
  obtain ⟨c, -, hc, hmem⟩ := Located.exists_first hn (by simp)
  have hbelow : n ∈ l.descendants := by
    rw [Located.descendants_eq_flatMap]
    exact List.mem_flatMap.mpr ⟨c, hc, hmem⟩
  rw [Located.scope_of_isElement (h.isElement_eq.trans helement), h.declarations_eq helement,
    Scope.namespace?_append, Scope.namespace?_append, Option.or_assoc,
    Scope.namespace?_filter (honce n hbelow) fun uri => !v.knows uri]

/-- A prefix that is declared again on an element is bound neither by the schema nor around it. -/
lemma namespace?_of_redeclared (hv : arrival? l (path ++ [i]) = some v) (h : Counterpart n v n')
    (helement : n.isElement = true) {pre uri : String}
    (hadded : v.redeclared.namespace? pre = some uri) :
    path = [] ∧ l.scope.namespace? pre = none := by
  obtain ⟨npath, outer, node⟩ := n
  obtain ⟨rfl, hplace, -⟩ | ⟨-, hne⟩ := place_of_arrival? hv
  · cases node with
    | element tag content =>
      obtain ⟨hfresh, -⟩ := redeclared_fresh hv h.node_eq _ (Scope.mem_of_namespace? hadded)
      rw [List.map_append, List.mem_append, not_or, hplace] at hfresh
      rw [← Scope.agree_visible]
      exact ⟨rfl, Scope.namespace?_eq_none hfresh.2⟩
    | _ => cases helement
  · rw [Arrival.redeclared, GraftPoint.redeclared, if_neg (by simpa using hne)] at hadded
    cases hadded

/-- A prefix means at a node of the copy what it means at the node of the document, unless it has
changed on the way. -/
theorem namespace?_eq_iff (honce : DeclaresOnce l) (hn : l.descend path = some n)
    (hn' : (standalone l).descend path = some n') (pre : String) :
    n'.scope.namespace? pre = n.scope.namespace? pre ↔ ¬Changed l pre path := by
  induction path using List.reverseRecOn generalizing n n' with
  | nil =>
    obtain rfl := Option.some.inj hn
    obtain rfl := Option.some.inj hn'
    exact iff_of_true (scope_standalone_agree l pre) not_changed_nil
  | append_singleton path i ih =>
    obtain ⟨m, hm, -, houter⟩ := Located.exists_parent hn
    obtain ⟨m', hm', -, houter'⟩ := Located.exists_parent hn'
    obtain ⟨v, n₂, hv, hn₂, hcounterpart⟩ := exists_counterpart hn
    obtain rfl := Option.some.inj (hn'.symm.trans hn₂)
    cases helement : n.isElement with
    | false =>
      have helement' := hcounterpart.isElement_eq.trans helement
      rw [Located.scope_of_not_isElement helement, Located.scope_of_not_isElement helement']
      refine iff_of_true rfl fun hchanged => ?_
      obtain ⟨n₂, hn₂, helement₂⟩ := exists_of_changed hchanged
      obtain rfl := Option.some.inj (hn.symm.trans hn₂)
      cases helement.symm.trans helement₂
    | true =>
      have hscope := namespace?_scope honce hn hcounterpart helement pre
      rw [Located.scope_of_isElement helement, Scope.namespace?_append, houter]
      cases hdeclared : n.declarations.namespace? pre with
      | some uri =>
        rw [changed_iff_of_declares hn hm' hv hdeclared, Option.some_or, hscope, hdeclared, houter',
          ← Scope.namespace?_append]
        cases hknown : v.knows uri <;> simp [hknown]
      | none =>
        rw [changed_iff_of_not_declares hn hv helement hdeclared, hscope, hdeclared,
          Option.filter_none, Option.none_or, Option.none_or]
        cases hadded : v.redeclared.namespace? pre with
        | none => simp [houter', ih hm hm']
        | some uri =>
          obtain ⟨rfl, hnone⟩ := namespace?_of_redeclared hv hcounterpart helement hadded
          obtain rfl := Option.some.inj hm
          simp [hnone]

lemma exists_named_counterpart (hn : l.descend path = some n) :
    ∃ n', (standalone l).descend path = some n' ∧ n'.localName = n.localName ∧
      n'.space = n.space := by
  rcases List.eq_nil_or_concat path with rfl | ⟨path, i, rfl⟩
  · obtain rfl := Option.some.inj hn
    exact ⟨_, rfl, localName_standalone l, space_standalone l⟩
  · rw [List.concat_eq_append] at hn ⊢
    obtain ⟨v, n', -, hn', hcounterpart⟩ := exists_counterpart hn
    exact ⟨n', hn', hcounterpart.localName_eq, hcounterpart.space_eq⟩

/-- Where all elements keep to the prefixes around them, nothing is declared again. -/
lemma redeclared_of_unaliased (honce : DeclaresOnce l) (h : Unaliased l (path ++ [i]))
    (hn : l.descend (path ++ [i]) = some n) (hv : arrival? l (path ++ [i]) = some v)
    (hcounterpart : Counterpart n v n') : v.redeclared = [] := by
  obtain ⟨hplace, hadded⟩ := faithful_of_arrival? honce h hn hv
  have hnone : v.result.2.declared = [] := by
    rw [Arrival.result, hcounterpart.node_eq]
    exact declared_grafted hplace hadded n.path n.node (plain_of_unaliased honce h hn)
  rw [Arrival.redeclared, GraftPoint.redeclared, hnone, ite_self]

lemma not_changed_of_unaliased (honce : DeclaresOnce l) (h : Unaliased l path) (pre : String) :
    ¬Changed l pre path := by
  induction path using List.reverseRecOn with
  | nil => exact not_changed_nil
  | append_singleton path i ih =>
    intro hchanged
    have hbefore : ¬Changed l pre path := by
      rcases List.eq_nil_or_concat path with rfl | ⟨path, j, rfl⟩
      · exact not_changed_nil
      · rw [List.concat_eq_append] at h ih ⊢
        refine ih ?_
        rwa [Unaliased, List.take_append_of_le_length (by simp)] at h
    obtain ⟨n, hn, helement⟩ := exists_of_changed hchanged
    obtain ⟨v, n', hv, hn', hcounterpart⟩ := exists_counterpart hn
    have hredeclared := redeclared_of_unaliased honce h hn hv hcounterpart
    cases hdeclared : n.declarations.namespace? pre with
    | none =>
      rw [changed_iff_of_not_declares hn hv helement hdeclared, hredeclared] at hchanged
      rcases hchanged with hadded | hchanged
      · exact hadded rfl
      · exact hbefore hchanged
    | some uri =>
      obtain ⟨m, hm, -, houter⟩ := Located.exists_parent hn
      obtain ⟨m', hm', -, -⟩ := Located.exists_parent hn'
      obtain ⟨hknown, hother⟩ := (changed_iff_of_declares hn hm' hv hdeclared).mp hchanged
      obtain ⟨hplace, hadded⟩ := faithful_of_arrival? honce h hn hv
      rw [Arrival.knows, GraftPoint.knows, levels_of_nil hadded] at hknown
      obtain ⟨other, hfound⟩ := Option.isSome_iff_exists.mp hknown
      have hbound := (hplace.agree other).symm.trans (hplace.sound.prefixOf? hfound)
      -- the namespace has this very prefix around the element, in the copy as in the document
      have hplain := plain_of_unaliased honce h hn n List.mem_cons_self
      obtain rfl := hplain.2.around pre other uri hdeclared hbound
      have hsame := (namespace?_eq_iff honce hm hm' other).mpr hbefore
      rw [hredeclared, List.nil_append, hsame, ← houter] at hother
      exact hother hbound

/-- Every node below a schema has a counterpart in the copy, with the same name. A prefix has the
same namespace at both, or none at both, unless it changes on the way; and just the names with such
a prefix are resolved otherwise in the copy, whatever the namespace of the caller is, except where
the one node has the prefix for no namespace and the other one does not have it. Nothing changes
where all elements keep to the prefixes around them. -/
theorem standalone_keepsNames (honce : DeclaresOnce l) (hn : l.descend path = some n) :
    ∃ n', (standalone l).descend path = some n' ∧
      n'.localName = n.localName ∧ n'.space = n.space ∧
      (∀ pre, (∀ uri, (pre, uri) ∈ n'.scope.visible ↔ (pre, uri) ∈ n.scope.visible) ↔
        ¬Changed l pre path) ∧
      (∀ raw, QualifiedName.Same n'.scope n.scope raw raw ↔
        ∀ pre ∈ QualifiedName.pre? raw, ¬Changed l pre path ∨ pre = "xml" ∨
          n.scope.namespace? pre = some "" ∧ n'.scope.namespace? pre = none ∨
          n.scope.namespace? pre = none ∧ n'.scope.namespace? pre = some "") ∧
      (Unaliased l path → ∀ pre, ¬Changed l pre path) := by
  obtain ⟨n', hn', hname, hspace⟩ := exists_named_counterpart hn
  refine ⟨n', hn', hname, hspace, fun pre => ?_, fun raw => ?_, not_changed_of_unaliased honce⟩
  · rw [← namespace?_eq_iff honce hn hn' pre]
    simp only [Scope.mem_visible_iff]
    exact Option.ext_iff.symm
  · rw [QualifiedName.same_iff]
    refine forall₂_congr fun pre _ => ?_
    rw [QualifiedName.namespaceOf, QualifiedName.namespaceOf, ← namespace?_eq_iff honce hn hn' pre]
    by_cases hxml : pre = "xml"
    · simp [hxml]
    · rw [if_neg hxml, if_neg hxml]
      cases n'.scope.namespace? pre <;> cases n.scope.namespace? pre <;> simp [hxml, eq_comm]

end Names

section Aliased

/-- An element that declares the target namespace once more, under another prefix, and names its
type by that prefix. -/
def aliasing : Node :=
  .element
    { name := ⟨Vocabulary.xsd, "element"⟩
      pre := "s"
      declarations := [("my", "urn:a")]
      attributes := [{ name := ⟨"", "name"⟩, value := "E" },
        { name := ⟨"", "type"⟩, value := "my:T" }] } []

/-- A schema with such an element and the type that it names. -/
def aliasedSchema : Located :=
  ⟨[0, 0], [("s", Vocabulary.xsd), ("tns", "urn:a")], .element
    { name := ⟨Vocabulary.xsd, "schema"⟩
      pre := "s"
      declarations := []
      attributes := [{ name := ⟨"", "targetNamespace"⟩, value := "urn:a" }] }
    [.element
      { name := ⟨Vocabulary.xsd, "complexType"⟩
        pre := "s"
        declarations := []
        attributes := [{ name := ⟨"", "name"⟩, value := "T" }] } [],
    aliasing]⟩

/-- The element where it stands in the schema. -/
def aliasedElement : Located := ⟨[0, 0, 1], aliasedSchema.scope, aliasing⟩

theorem standalone_keepsNames_aliased :
    DeclaresOnce aliasedSchema ∧ aliasedSchema.descend [1] = some aliasedElement ∧
    Changed aliasedSchema "my" [1] ∧ ¬Changed aliasedSchema "tns" [1] ∧
    ∃ n', (standalone aliasedSchema).descend [1] = some n' ∧
      QualifiedName.Same n'.scope aliasedElement.scope "tns:T" "tns:T" ∧
      ¬QualifiedName.Same n'.scope aliasedElement.scope "my:T" "my:T" := by
  have honce : DeclaresOnce aliasedSchema := by
    rw [DeclaresOnce]
    decide
  have helement : aliasedSchema.descend [1] = some aliasedElement := rfl
  have hchanged : Changed aliasedSchema "my" ([] ++ [1]) :=
    .dropped helement rfl rfl rfl (by decide) (by decide)
  have hkept : ¬Changed aliasedSchema "tns" ([] ++ [1]) := by
    rw [changed_iff_of_not_declares helement rfl rfl rfl]
    rintro (hadded | hbefore)
    · exact hadded rfl
    · exact not_changed_nil hbefore
  obtain ⟨n', hn', -, -, -, hsame, -⟩ := standalone_keepsNames honce helement
  refine ⟨honce, helement, hchanged, hkept, n', hn', (hsame _).mpr fun pre hpre => ?_, fun h => ?_⟩
  · have htns : QualifiedName.pre? "tns:T" = some "tns" := by decide
    obtain rfl := Option.some.inj (htns.symm.trans hpre)
    exact .inl hkept
  · rcases (hsame _).mp h "my" (by decide) with hkept | hxml | hnone | hnone
    · exact hkept hchanged
    · exact absurd hxml (by decide)
    · exact absurd hnone.1 (by decide)
    · exact absurd hnone.1 (by decide)

/-- In the document the name of the type is that of the type beside it; in the copy it is in no
namespace. -/
theorem aliasedSchema_losesName :
    aliasedSchema.descend [1] = some aliasedElement ∧
    aliasedElement.attr? "type" = some "my:T" ∧
    QualifiedName.resolve aliasedElement.scope "" "my:T" = ⟨"urn:a", "T"⟩ ∧
    ∃ n', (standalone aliasedSchema).descend [1] = some n' ∧ n'.attr? "type" = some "my:T" ∧
      QualifiedName.resolve n'.scope "" "my:T" = ⟨"", "T"⟩ :=
  ⟨rfl, by decide, by decide, _, rfl, by decide, by decide⟩

end Aliased

end Schema
end ServiceDescription
