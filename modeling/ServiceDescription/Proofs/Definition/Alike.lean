import ServiceDescription.Proofs.Contract.Alike
import ServiceDescription.Proofs.Definition.Reading

/-! Definitions elements that are read to one description. Of the root only the target namespace and
the children of each kind count, of the types section only its schemas; the table of namespaces is set
apart, because it lists the declarations of the root as they are. -/
namespace ServiceDescription.Definition
open Xml Schema Schema.Catalog Contract Lookup Likeness

/-- Both elements are read without refusal, and the descriptions are equal but for the namespaces. -/
def ReadAlike (root root' : Located) : Prop :=
  ∃ d : Definition, (read false root).outcome = .ok d ∧
    (read false root').outcome = .ok { d with namespaces := root'.scope.visible }

lemma ReadAlike.outcome_eq {root root' : Located} (h : ReadAlike root root')
    (hscope : root.scope = root'.scope) :
    (read false root).outcome = (read false root').outcome := by
  obtain ⟨d, hd, hd'⟩ := h
  rw [hd', hd, ← hscope]
  rw [outcome_read] at hd
  obtain rfl := Except.ok.inj hd
  rfl

/-- The kinds of children that a definitions element is read for, the types section aside. -/
def kinds : List String := ["message", "portType", "binding", "service"]

/-- Two definitions elements with one target namespace, whose schemas are alike, one by one, and whose
other children are alike, kind by kind. -/
structure Like (R : Located → Located → Prop) (root root' : Located) : Prop where
  targetNamespace_eq : root.attr "targetNamespace" = root'.attr "targetNamespace"
  schemas : List.Forall₂ (Fragment.Like R) (schemasOf (root.childNamed? "types" none))
    (schemasOf (root'.childNamed? "types" none))
  childrenNamed : ∀ kind ∈ kinds,
    List.Forall₂ R (root.childrenNamed kind none) (root'.childrenNamed kind none)

variable {R : Located → Located → Prop} [Likeness R] {root root' : Located}

lemma like_of_rel (h : R root root') : Like R root root' where
  targetNamespace_eq := attr_eq h "targetNamespace" (by decide)
  schemas := forall₂_schemasOf (childNamed? h "types" (by decide) none)
  childrenNamed kind hkind := Likeness.childrenNamed h kind (by revert kind; decide) none

theorem Like.readAlike (h : Like R root root') : ReadAlike root root' := by
  refine ⟨_, outcome_read false root, ?_⟩
  have htypes : catalog false root = catalog false root' := by
    rw [catalog, catalog, collected_eq h.schemas]
  have hmessages := map_eq_of_forall₂ (h.childrenNamed "message" (by decide)) fun _ _ hm =>
    Message.ofNode_eq hm (root'.attr "targetNamespace")
  have hinterfaces := map_eq_of_forall₂ (h.childrenNamed "portType" (by decide)) fun _ _ hi =>
    Interface.ofNode_eq hi (root'.attr "targetNamespace")
  have hbindings := map_eq_of_forall₂ (h.childrenNamed "binding" (by decide)) fun _ _ hb =>
    Binding.ofNode_eq hb (root'.attr "targetNamespace")
  have hservices := map_eq_of_forall₂ (h.childrenNamed "service" (by decide)) fun _ _ hs =>
    Service.ofNode_eq hs (root'.attr "targetNamespace")
  rw [outcome_read, htypes, h.targetNamespace_eq, hmessages, hinterfaces, hbindings, hservices]

end ServiceDescription.Definition
