import ServiceDescription.Proofs.Schema.Entries
import ServiceDescription.Proofs.Xml.Plain

/-! Which types of a catalog are arrays, and of what. A type is looked at when it is read, before it
gets into the catalog and before references are marked; what is found then holds in the finished
catalog, since marking changes neither the occurrences of members nor their types. -/
namespace ServiceDescription.Schema
open Xml

/-- The name says ArrayOf, letter case aside, and goes on with an item, which is one line and is not
empty. A line feed may follow. -/
def NamesItem (name item : String) : Prop :=
  ∃ word tail : List Char, word.map Char.toLower = "arrayof".toList ∧ (tail = [] ∨ tail = ['\n']) ∧
    name.toList = word ++ (item.toList ++ tail) ∧ item ≠ "" ∧ '\n' ∉ item.toList

lemma NamesItem.ne_empty {name item : String} (h : NamesItem name item) : item ≠ "" := by
  obtain ⟨-, -, -, -, -, hne, -⟩ := h
  exact hne

/-- A text without the line feed that may end it. -/
def chomped (s : List Char) : List Char := if s.getLast? = some '\n' then s.dropLast else s

lemma exists_eq_chomped_append (s : List Char) :
    ∃ tail, (tail = [] ∨ tail = ['\n']) ∧ s = chomped s ++ tail := by
  rw [chomped]
  split
  · next h =>
    obtain ⟨init, rfl⟩ := List.getLast?_eq_some_iff.mp h
    exact ⟨['\n'], Or.inr rfl, by rw [List.dropLast_concat]⟩
  · exact ⟨[], Or.inl rfl, (List.append_nil s).symm⟩

lemma chomped_append {s tail : List Char} (hs : '\n' ∉ s) (htail : tail = [] ∨ tail = ['\n']) :
    chomped (s ++ tail) = s := by
  rcases htail with rfl | rfl
  · rw [List.append_nil, chomped, if_neg fun h => hs (List.mem_of_getLast? h)]
  · rw [chomped, if_pos List.getLast?_concat, List.dropLast_concat]

lemma namedItem?_eq (name : String) :
    namedItem? name =
      if (name.toList.take 7).map Char.toLower = "arrayof".toList then
        if (chomped (name.toList.drop 7)).isEmpty || (chomped (name.toList.drop 7)).contains '\n'
        then none else some (String.ofList (chomped (name.toList.drop 7)))
      else none := rfl

theorem namedItem?_eq_some_iff {name item : String} :
    namedItem? name = some item ↔ NamesItem name item := by
  rw [namedItem?_eq]
  constructor
  · intro h
    split at h
    · next hword =>
      split at h
      · cases h
      · next hitem =>
        obtain ⟨hempty, hline⟩ := Bool.or_eq_false_iff.mp (Bool.eq_false_iff.mpr hitem)
        obtain ⟨tail, htail, hrest⟩ := exists_eq_chomped_append (name.toList.drop 7)
        obtain rfl := Option.some.inj h
        refine ⟨name.toList.take 7, tail, hword, htail, ?_, ?_, ?_⟩
        · rw [String.toList_ofList, ← hrest, List.take_append_drop]
        · rw [Ne, String.ofList_eq_empty_iff]
          exact List.isEmpty_eq_false_iff.mp hempty
        · simpa using hline
    · cases h
  · rintro ⟨word, tail, hword, htail, hname, hitem, hline⟩
    have hlength : word.length = 7 := by simpa using congrArg List.length hword
    have hrest : name.toList.drop 7 = item.toList ++ tail := by
      rw [hname, ← hlength, List.drop_left]
    rw [hrest, chomped_append hline htail, hname, ← hlength, List.take_left, if_pos hword, if_neg,
      String.ofList_toList]
    simpa [hline] using hitem

namespace Element

/-- The node gives its element no type name: it has no inline body, and its type attribute names
nothing, if it is there at all. -/
def Untyped (uri : String) (l : Located) : Prop :=
  inlineBody? l = none ∧ ∀ type, reference? l "type" uri = some type → type.localName = ""

lemma typeName_of_untyped {uri : String} {l : Located} (h : Untyped uri l) :
    (ofDeclaration l uri).typeName = "" := by
  rw [ofDeclaration]
  cases href : reference? l "type" uri with
  | none => simp [h.1]
  | some type => simp [h.1, h.2 type href]

/-- The element may occur more than once and has a type name. -/
def RepeatsTyped (e : Element) : Prop := 1 < e.maxOccurs ∧ e.typeName ≠ ""

instance (e : Element) : Decidable e.RepeatsTyped := inferInstanceAs (Decidable (_ ∧ _))

end Element

namespace ComplexType

/-- Everything that a type can be when it is looked at as an array. -/
inductive ArrayShape (t : ComplexType) : Prop
  | item {item : String} {e : Element} (hitem : NamesItem t.name item) (hone : t.elements = [e])
  | record {item : String} (hitem : NamesItem t.name item) (hlength : t.elements.length ≠ 1)
  | repeating {e : Element} (hnone : ∀ item, ¬NamesItem t.name item)
      (hfind : t.elements.find? (fun e => e.isArray && e.typeName ≠ "") = some e)
  | plain (hnone : ∀ item, ¬NamesItem t.name item)
      (hfind : t.elements.find? (fun e => e.isArray && e.typeName ≠ "") = none)

theorem arrayShape (t : ComplexType) : t.ArrayShape := by
  by_cases hname : ∃ item, NamesItem t.name item
  · obtain ⟨item, hitem⟩ := hname
    by_cases hlength : t.elements.length = 1
    · obtain ⟨e, hone⟩ := List.length_eq_one_iff.mp hlength
      exact .item hitem hone
    · exact .record hitem hlength
  · have hnone : ∀ item, ¬NamesItem t.name item := not_exists.mp hname
    cases hfind : t.elements.find? (fun e => e.isArray && e.typeName ≠ "") with
    | some e => exact .repeating hnone hfind
    | none => exact .plain hnone hfind

section Shapes
variable {t : ComplexType} {item : String} {e : Element}

/-- The type of the only member is the item of a type that is named for one. -/
lemma asArray?_item (hitem : NamesItem t.name item) (hone : t.elements = [e]) (space : String) :
    t.asArray? space = some ({ t with elements := [e.asItem item space] }.withItem
      (e.asItem item space).typeName (e.asItem item space).typeSpace) := by
  rw [asArray?, namedItem?_eq_some_iff.mpr hitem, hone]

lemma asArray?_record (hitem : NamesItem t.name item) (hlength : t.elements.length ≠ 1)
    (space : String) : t.asArray? space = none := by
  rw [asArray?, namedItem?_eq_some_iff.mpr hitem]
  cases helements : t.elements with
  | nil => rfl
  | cons e es =>
    cases es with
    | nil => exact absurd (congrArg List.length helements) hlength
    | cons f es => rfl

lemma asArray?_unnamed (hnone : ∀ item, ¬NamesItem t.name item) (space : String) :
    t.asArray? space = (t.elements.find? fun e => e.isArray && e.typeName ≠ "").map fun e =>
      t.withItem e.typeName e.typeSpace := by
  have hname : namedItem? t.name = none :=
    Option.eq_none_iff_forall_ne_some.mpr fun item h => hnone item (namedItem?_eq_some_iff.mp h)
  rw [asArray?, hname]

lemma asArray?_repeating (hnone : ∀ item, ¬NamesItem t.name item)
    (hfind : t.elements.find? (fun e => e.isArray && e.typeName ≠ "") = some e) (space : String) :
    t.asArray? space = some (t.withItem e.typeName e.typeSpace) := by
  rw [asArray?_unnamed hnone, hfind, Option.map_some]

lemma asArray?_plain (hnone : ∀ item, ¬NamesItem t.name item)
    (hfind : t.elements.find? (fun e => e.isArray && e.typeName ≠ "") = none) (space : String) :
    t.asArray? space = none := by
  rw [asArray?_unnamed hnone, hfind, Option.map_none]

end Shapes

/-- What makes a type an array, `l` being the node that declares it in a schema with the namespace
`uri`. A type named for an item is one if it has exactly one member, any other type if one of its
members repeats and has a type name. -/
structure Classified (uri : String) (l : Located) (t : ComplexType) : Prop where
  named : ∀ item, NamesItem t.name item → (t.isArray = true ↔ t.elements.length = 1) ∧
    ∀ e, t.elements = [e] → e.isArray = true ∧
      t.itemName = some e.typeName ∧ t.itemSpace = some e.typeSpace ∧
      ∀ m, memberNodes l = [m] → Element.Untyped uri m → e.typeName = item ∧ e.typeSpace = t.space
  unnamed : (∀ item, ¬NamesItem t.name item) →
    (t.isArray = true ↔ ∃ e ∈ t.elements, e.RepeatsTyped) ∧
    ∀ e, t.elements.find? (·.RepeatsTyped) = some e →
      t.itemName = some e.typeName ∧ t.itemSpace = some e.typeSpace
  item : (t.isArray = true ↔ t.itemName ≠ none) ∧ (t.isArray = true ↔ t.itemSpace ≠ none)
  repeats : ∀ e ∈ t.elements, ((∃ item, NamesItem t.name item) → t.elements.length ≠ 1) →
    (e.isArray = true ↔ 1 < e.maxOccurs)

variable {uri : String} {l : Located} {t : ComplexType}

lemma namesItem_unique {name item item' : String} (h : NamesItem name item)
    (h' : NamesItem name item') : item = item' := by
  rw [← namedItem?_eq_some_iff] at h h'
  exact Option.some.inj (h.symm.trans h')

/-- A type that is left as it is declared. -/
lemma classified_of_plain (harray : t.isArray = false) (hname : t.itemName = none)
    (hspace : t.itemSpace = none)
    (hrepeats : ∀ e ∈ t.elements, (e.isArray = true ↔ 1 < e.maxOccurs))
    (hnamed : (∃ item, NamesItem t.name item) → t.elements.length ≠ 1)
    (hunnamed : (∀ item, ¬NamesItem t.name item) → ∀ e ∈ t.elements, ¬e.RepeatsTyped) :
    Classified uri l t where
  named item hitem := by
    have hlength := hnamed ⟨item, hitem⟩
    refine ⟨by simp [harray, hlength], fun e he => ?_⟩
    exact absurd (congrArg List.length he) hlength
  unnamed hnone := by
    refine ⟨?_, fun e he => ?_⟩
    · simpa [harray] using hunnamed hnone
    · exact absurd (by simpa using List.find?_some he)
        (hunnamed hnone e (List.mem_of_find?_eq_some he))
  item := by simp [harray, hname, hspace]
  repeats e he _ := hrepeats e he

lemma isArray_asItem (e : Element) (item space : String) : (e.asItem item space).isArray = true := by
  rw [Element.asItem]
  split <;> rfl

/-- The only member of a type that is named for its item. -/
lemma classified_of_item {e : Element} {item : String} (hitem : NamesItem t.name item)
    (hspace : t.space = uri)
    (huntyped : ∀ m, memberNodes l = [m] → Element.Untyped uri m → e.typeName = "") :
    Classified uri l ({ t with elements := [e.asItem item uri] }.withItem
      (e.asItem item uri).typeName (e.asItem item uri).typeSpace) where
  named item' hitem' := by
    refine ⟨by simp [withItem], fun f hf => ?_⟩
    obtain rfl : e.asItem item uri = f := by simpa [withItem] using hf
    refine ⟨isArray_asItem e item uri, rfl, rfl, fun m hm hu => ?_⟩
    rw [namesItem_unique hitem' hitem, Element.asItem, if_pos (huntyped m hm hu)]
    exact ⟨rfl, hspace.symm⟩
  unnamed hnone := absurd hitem (hnone item)
  item := by simp [withItem]
  repeats f hf hlength := absurd rfl (hlength ⟨item, hitem⟩)

/-- A type with another name, whose member `e` is the first that repeats and has a type name. -/
lemma classified_of_member {e : Element} (hnone : ∀ item, ¬NamesItem t.name item)
    (hfind : t.elements.find? (·.RepeatsTyped) = some e)
    (hrepeats : ∀ e ∈ t.elements, (e.isArray = true ↔ 1 < e.maxOccurs)) :
    Classified uri l (t.withItem e.typeName e.typeSpace) where
  named item hitem := absurd hitem (hnone item)
  unnamed _ := by
    refine ⟨⟨fun _ => ⟨e, List.mem_of_find?_eq_some hfind, ?_⟩, fun _ => rfl⟩, fun f hf => ?_⟩
    · simpa using List.find?_some hfind
    · obtain rfl : e = f := Option.some.inj (hfind.symm.trans hf)
      exact ⟨rfl, rfl⟩
  item := by simp [withItem]
  repeats e he _ := hrepeats e he

/-- Before it is looked at as an array a type has the repeating members that it declares. -/
lemma find?_ofDeclaration (l : Located) (space name : String) :
    (ofDeclaration l space name).elements.find? (fun e => e.isArray && e.typeName ≠ "") =
      (ofDeclaration l space name).elements.find? (·.RepeatsTyped) := by
  rw [ofDeclaration, List.find?_map, List.find?_map]
  have hcond : (fun e : Element => e.isArray && e.typeName ≠ "") ∘ (Element.ofDeclaration · space) =
      (fun e : Element => decide e.RepeatsTyped) ∘ (Element.ofDeclaration · space) := by
    funext m
    rw [Bool.eq_iff_iff, Function.comp_apply, Function.comp_apply, decide_eq_true_iff,
      Element.RepeatsTyped]
    simp [Element.ofDeclaration]
  rw [hcond]

/-- What is read from a node is classified. -/
theorem classified_read (l : Located) (uri : String) (name : Option String) :
    Classified uri l (read l uri name).value := by
  show Classified uri l (detectArray (ofDeclaration l uri (name.getD (l.attr "name"))) uri)
  generalize name.getD (l.attr "name") = typeName
  have hrepeats : ∀ e ∈ (ofDeclaration l uri typeName).elements,
      (e.isArray = true ↔ 1 < e.maxOccurs) := by
    intro e he
    obtain ⟨m, -, rfl⟩ := List.mem_map.mp he
    exact decide_eq_true_iff
  rw [detectArray]
  cases (ofDeclaration l uri typeName).arrayShape with
  | @item item e hitem hone =>
    rw [asArray?_item hitem hone, Option.getD_some]
    refine classified_of_item hitem rfl fun m hm hu => ?_
    have he : [Element.ofDeclaration m uri] = [e] := by
      rw [← hone, ofDeclaration, hm, List.map_singleton]
    rw [← List.singleton_inj.mp he]
    exact Element.typeName_of_untyped hu
  | record hitem hlength =>
    rw [asArray?_record hitem hlength, Option.getD_none]
    exact classified_of_plain rfl rfl rfl hrepeats (fun _ => hlength)
      fun hnone => absurd hitem (hnone _)
  | repeating hnone hfind =>
    rw [asArray?_repeating hnone hfind, Option.getD_some]
    rw [find?_ofDeclaration] at hfind
    exact classified_of_member hnone hfind hrepeats
  | plain hnone hfind =>
    rw [asArray?_plain hnone hfind, Option.getD_none]
    rw [find?_ofDeclaration] at hfind
    refine classified_of_plain rfl rfl rfl hrepeats (fun hitem => ?_) fun _ e he => ?_
    · exact absurd hitem (not_exists.mpr hnone)
    · simpa using List.find?_eq_none.mp hfind e he

end ComplexType

namespace Catalog

/-- Marking the members of a type changes nothing that its classification speaks of. -/
theorem classified_marked (c : Catalog) {uri : String} {l : Located} {t : ComplexType}
    (h : ComplexType.Classified uri l t) : ComplexType.Classified uri l (c.marked t) where
  named item hitem := by
    obtain ⟨harray, hmember⟩ := h.named item hitem
    refine ⟨by simpa [marked] using harray, fun f hf => ?_⟩
    obtain ⟨e, he, rfl⟩ := List.map_eq_singleton_iff.mp hf
    simpa [marked] using hmember e he
  unnamed hnone := by
    obtain ⟨harray, hmember⟩ := h.unnamed hnone
    have hrepeats : ∀ e, (c.mark e).RepeatsTyped ↔ e.RepeatsTyped := fun e => by
      simp [Element.RepeatsTyped]
    refine ⟨by simpa [marked, hrepeats] using harray, fun f hf => ?_⟩
    rw [marked, List.find?_map] at hf
    obtain ⟨e, he, rfl⟩ := Option.map_eq_some_iff.mp hf
    simpa [marked] using hmember e (by simpa [Function.comp_def, hrepeats] using he)
  item := h.item
  repeats f hf hlength := by
    obtain ⟨e, he, rfl⟩ := List.mem_map.mp hf
    simpa [marked] using h.repeats e he (by simpa [marked] using hlength)

/-- The types of the catalog of a types section, promoted ones too, are arrays of what their names
and their members say. -/
theorem addTypes_classifies (types : Option Located) (strict : Bool) :
    ∃ d : Catalog, (empty.addTypes strict types).outcome = .ok d ∧
      List.Forall₂ (fun s t => t.name = s.name ∧ t.space = s.space ∧
          List.Forall₂ (Element.Declares s.space) (ComplexType.memberNodes s.node) t.elements ∧
          ComplexType.Classified s.space s.node t)
        (entries types) d.complexTypes := by
  refine ⟨_, outcome_addTypes rfl strict types, ?_⟩
  rw [complexTypes_markReferences, complexTypes_eq_entries, List.map_map,
    List.forall₂_map_right_iff, List.forall₂_same]
  intro s hs
  refine ⟨s.name_type, s.space_type, ?_, ?_⟩
  · show List.Forall₂ _ _ (s.type.elements.map (empty.collected strict types).mark)
    rw [List.forall₂_map_right_iff]
    exact (ComplexType.readFrom_read s.node s.space (some s.name)).imp
      fun m e he => he.toDeclares.mark _
  · exact classified_marked _ (ComplexType.classified_read s.node s.space (some s.name))

/-- A named array with an untyped member, one with two members, and a type that is the array of its
second member. -/
def arraySchema : Located := .root <| .plain "types" [] [
  .plain "schema" [("targetNamespace", "urn:a")] [
    .plain "complexType" [("name", "arrayofRow")] [.plain "sequence" [] [
      .plain "element" [("name", "Row")] []]],
    .plain "complexType" [("name", "ArrayOfPair")] [.plain "sequence" [] [
      .plain "element" [("name", "A"), ("type", "A"), ("maxOccurs", "2")] [],
      .plain "element" [("name", "B"), ("type", "B")] []]],
    .plain "complexType" [("name", "Order")] [.plain "sequence" [] [
      .plain "element" [("name", "Note"), ("maxOccurs", "unbounded")] [],
      .plain "element" [("name", "Line"), ("maxOccurs", "2")] [.plain "complexType" [] []]]]]]

example : (empty.collected false (some arraySchema)).markReferences.complexTypes.map
    (fun t => (t.name, t.isArray, t.itemName)) =
      [("arrayofRow", true, some "Row"), ("ArrayOfPair", false, none),
        ("Order", true, some "LineType"), ("LineType", false, none)] := by
  decide +kernel

end Catalog
end ServiceDescription.Schema
