import ServiceDescription.Schema.Catalog
import ServiceDescription.Schema.Declaration

/-! Promotion of inline types: every anonymous body becomes a complex type of the catalog under the
name made up for it, unless the name is taken. The bodies found in a promoted one come next, before
the requests that follow it. Each body weighs more than all the bodies found in it together, so the
weight of what is pending falls at every step. -/
namespace ServiceDescription.Schema
open Xml

namespace InlineType

def weights : List InlineType → Nat
  | [] => 0
  | r :: rs => r.body.weight + weights rs

@[simp] theorem weights_nil : weights [] = 0 := rfl
@[simp] theorem weights_cons (r : InlineType) (rs : List InlineType) :
    weights (r :: rs) = r.body.weight + weights rs := rfl
@[simp] theorem weights_append (rs ss : List InlineType) :
    weights (rs ++ ss) = weights rs + weights ss := by
  induction rs with
  | nil => simp
  | cons r rs ih => simp [ih, Nat.add_assoc]

end InlineType

theorem Element.weights_inlineTypes_lt (l : Located) (space : String) :
    InlineType.weights (Element.inlineTypes l space) < l.weight := by
  unfold Element.inlineTypes Element.inlineBody?
  cases h : l.childNamed? "complexType" none with
  | none => exact Nat.lt_of_le_of_lt (Nat.zero_le _) l.weights_children_lt
  | some body => simpa using Located.weight_childNamed?_lt h

namespace ComplexType

theorem weight_derivation?_lt {l d : Located} {kind : String} (h : derivation? l kind = some d) :
    d.weight < l.weight := by
  obtain ⟨model, -, hm⟩ := List.exists_of_findSome?_eq_some h
  obtain ⟨content, hc, hd⟩ := Option.bind_eq_some_iff.mp hm
  exact Nat.lt_trans (Located.weight_childNamed?_lt hd) (Located.weight_childNamed?_lt hc)

theorem weight_memberGroup?_lt {l g : Located} (h : memberGroup? l = some g) :
    g.weight < l.weight := by
  obtain ⟨holder, hmem, hg⟩ := List.exists_of_findSome?_eq_some h
  obtain ⟨name, -, hn⟩ := List.exists_of_findSome?_eq_some hg
  refine Nat.lt_of_lt_of_le (Located.weight_childNamed?_lt hn) ?_
  rcases List.mem_cons.mp hmem with rfl | hmem
  · exact Nat.le_refl _
  · obtain ⟨kind, -, hk⟩ := List.mem_filterMap.mp hmem
    exact Nat.le_of_lt (weight_derivation?_lt hk)

theorem weights_memberNodes_lt (l : Located) : Located.weights (memberNodes l) < l.weight := by
  unfold memberNodes
  split
  · next g hg => exact Nat.lt_trans (g.weights_childrenNamed_lt ..) (weight_memberGroup?_lt hg)
  · exact Nat.lt_of_le_of_lt (Nat.zero_le _) l.weights_children_lt

theorem weights_inlineTypes_lt (l : Located) (space : String) :
    InlineType.weights (inlineTypes l space) < l.weight := by
  refine Nat.lt_of_le_of_lt ?_ (weights_memberNodes_lt l)
  unfold inlineTypes
  induction memberNodes l with
  | nil => simp
  | cons m ms ih =>
    have := Element.weights_inlineTypes_lt m space
    simp only [List.flatMap_cons, InlineType.weights_append, Located.weights_cons]
    omega

end ComplexType

namespace Catalog

/-- The types that promotion adds, in order. -/
def InPlace.promote : List InlineType → InPlace (List ComplexType)
  | [] => return []
  | r :: rest => do
    let c ← get
    if c.hasComplexType r.typeName then do
      Reported.report (.inlineTypeKnown r.typeName)
      promote rest
    else do
      let type ← liftM (ComplexType.read r.body r.space (some r.typeName))
      add (.complexType type)
      let nested := ComplexType.inlineTypes r.body r.space
      Reported.report (.inlineTypePromoted type.name nested.length)
      let later ← promote (nested ++ rest)
      return type :: later
termination_by rs => InlineType.weights rs
decreasing_by
  · have := r.body.weights_children_lt
    simp; omega
  · have := ComplexType.weights_inlineTypes_lt r.body r.space
    simp; omega

/-- The catalog after promotion and the types added to it, in order. -/
def promote (c : Catalog) (rs : List InlineType) : Attempt (Catalog × List ComplexType) :=
  (InPlace.promote rs).attempted c

end Catalog
end ServiceDescription.Schema
