import ServiceDescription.Proofs.Schema.Classification

/-! What looking at a type as an array changes. A type that is none stays as it is. Of an array only
the three array fields are set and, where its name names an item, the flag of its only member and
the type of a member that had none. Since a member has a type afterwards, there is nothing left to
change when the type is looked at again, whatever namespace is given. -/
namespace ServiceDescription.Schema

namespace Element
variable {e : Element} {item : String}

lemma typeName_asItem_ne (hitem : item ≠ "") (space : String) :
    (e.asItem item space).typeName ≠ "" := by
  rw [asItem]
  split
  · exact hitem
  · next htyped => exact htyped

/-- An item that has a type and repeats is left alone. -/
lemma asItem_eq_self (htyped : e.typeName ≠ "") (harray : e.isArray = true) (item space : String) :
    e.asItem item space = e := by
  rw [asItem, if_neg htyped, ← harray]

lemma asItem_asItem (hitem : item ≠ "") (space space' : String) :
    (e.asItem item space).asItem item space' = e.asItem item space :=
  asItem_eq_self (typeName_asItem_ne hitem space) (ComplexType.isArray_asItem e item space) item
    space'

end Element

namespace ComplexType

/-- Looking at a type as an array: whether it is one, and what it is afterwards. -/
def detection (t : ComplexType) (space : String) : Bool × ComplexType :=
  ((t.asArray? space).isSome, t.detectArray space)

/-- An array, beside the type that it has been before. It differs in its array fields and in its
members, which it has in the same order. Only a type named for an item has another member than
before, and only one. -/
structure BecomesArray (space : String) (before after : ComplexType) : Prop where
  fields : ∃ item itemSpace, after = { before with
    elements := after.elements, isArray := true, itemName := some item, itemSpace := some itemSpace }
  named : ∀ item, NamesItem before.name item → ∃ e, before.elements = [e] ∧
    (e.typeName = "" →
      after.elements = [{ e with isArray := true, typeName := item, typeSpace := space }]) ∧
    (e.typeName ≠ "" → after.elements = [{ e with isArray := true }])
  unnamed : (∀ item, ¬NamesItem before.name item) → after.elements = before.elements

/-- What looking at a type as an array may come to. -/
inductive Detected (space : String) (t : ComplexType) : Bool × ComplexType → Prop
  | record : Detected space t (false, t)
  | array {after : ComplexType} (h : BecomesArray space t after) : Detected space t (true, after)

variable {t : ComplexType} {space : String}

lemma detection_of_none (h : t.asArray? space = none) : t.detection space = (false, t) := by
  rw [detection, detectArray, h]
  rfl

lemma detection_of_some {after : ComplexType} (h : t.asArray? space = some after) :
    t.detection space = (true, after) := by
  rw [detection, detectArray, h]
  rfl

lemma becomesArray_of_item {item : String} {e : Element} (hitem : NamesItem t.name item)
    (hone : t.elements = [e]) :
    BecomesArray space t ({ t with elements := [e.asItem item space] }.withItem
      (e.asItem item space).typeName (e.asItem item space).typeSpace) where
  fields := ⟨_, _, rfl⟩
  named item' hitem' := by
    obtain rfl := namesItem_unique hitem hitem'
    refine ⟨e, hone, fun huntyped => ?_, fun htyped => ?_⟩
    · rw [withItem, Element.asItem, if_pos huntyped]
    · rw [withItem, Element.asItem, if_neg htyped]
  unnamed hnone := absurd hitem (hnone item)

lemma becomesArray_of_unnamed (hnone : ∀ item, ¬NamesItem t.name item) (name itemSpace : String) :
    BecomesArray space t (t.withItem name itemSpace) where
  fields := ⟨name, itemSpace, rfl⟩
  named item hitem := absurd hitem (hnone item)
  unnamed _ := rfl

theorem detected_detection (t : ComplexType) (space : String) :
    Detected space t (t.detection space) := by
  cases t.arrayShape with
  | item hitem hone =>
    rw [detection_of_some (asArray?_item hitem hone space)]
    exact .array (becomesArray_of_item hitem hone)
  | record hitem hlength =>
    rw [detection_of_none (asArray?_record hitem hlength space)]
    exact .record
  | repeating hnone hfind =>
    rw [detection_of_some (asArray?_repeating hnone hfind space)]
    exact .array (becomesArray_of_unnamed hnone _ _)
  | plain hnone hfind =>
    rw [detection_of_none (asArray?_plain hnone hfind space)]
    exact .record

/-- A type that has been looked at is found to be what it was found to be. -/
theorem asArray?_detectArray (t : ComplexType) (space space' : String) :
    (t.detectArray space).asArray? space' = t.asArray? space := by
  rw [detectArray]
  cases t.arrayShape with
  | @item item e hitem hone =>
    rw [asArray?_item hitem hone, Option.getD_some]
    have hagain := asArray?_item (t := { t with elements := [e.asItem item space] }.withItem
      (e.asItem item space).typeName (e.asItem item space).typeSpace) hitem rfl space'
    rw [hagain, Element.asItem_asItem hitem.ne_empty]
    rfl
  | record hitem hlength =>
    rw [asArray?_record hitem hlength, Option.getD_none, asArray?_record hitem hlength]
  | @repeating e hnone hfind =>
    rw [asArray?_repeating hnone hfind, Option.getD_some]
    exact asArray?_repeating (t := t.withItem e.typeName e.typeSpace) hnone hfind space'
  | plain hnone hfind =>
    rw [asArray?_plain hnone hfind, Option.getD_none, asArray?_plain hnone hfind]

/-- Looking at a type as an array changes what an array needs and nothing else, and a second look,
in whatever namespace, comes to the same and changes nothing. -/
theorem detection_settles (t : ComplexType) (space : String) :
    Detected space t (t.detection space) ∧
      ∀ space', (t.detection space).2.detection space' = t.detection space := by
  refine ⟨detected_detection t space, fun space' => ?_⟩
  have hagain := asArray?_detectArray t space space'
  show (t.detectArray space).detection space' = t.detection space
  cases harray : t.asArray? space with
  | none =>
    rw [harray] at hagain
    rw [detection_of_none hagain, detection_of_none harray, detectArray, harray, Option.getD_none]
  | some after =>
    rw [harray] at hagain
    rw [detection_of_some hagain, detection_of_some harray]

end ComplexType
end ServiceDescription.Schema
