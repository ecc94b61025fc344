import ServiceDescription.Definition
import ServiceDescription.Proofs.Schema.Collected

/-! What reading a definitions element comes to. Nothing is refused, as the catalog is closed only
when all types are in it. -/
namespace ServiceDescription.Definition
open Xml Schema Schema.Catalog Contract

/-- The catalog of a description, with its references marked, as it is frozen. -/
def catalog (strict : Bool) (root : Located) : Catalog :=
  (empty.collected strict (root.childNamed? "types" none)).markReferences.freeze

/-- A definitions element is read without refusal, child by child. -/
theorem outcome_read (strict : Bool) (root : Located) :
    (read strict root).outcome = .ok
      { targetNamespace := root.attr "targetNamespace"
        namespaces := root.scope.visible
        types := catalog strict root
        messages := (root.childrenNamed "message" none).map
          (Message.ofNode · (root.attr "targetNamespace"))
        interfaces := (root.childrenNamed "portType" none).map
          (Interface.ofNode · (root.attr "targetNamespace"))
        bindings := (root.childrenNamed "binding" none).map
          (Binding.ofNode · (root.attr "targetNamespace"))
        services := (root.childrenNamed "service" none).map
          (Service.ofNode · (root.attr "targetNamespace")) } := by
  rw [read, outcome_bind (outcome_report _), outcome_bind (outcome_addTypes rfl strict _),
    outcome_bind (outcome_report _), outcome_bind (outcome_lift _), outcome_bind (outcome_lift _),
    outcome_bind (outcome_report _), outcome_pure, Reported.value_each, Reported.value_each]
  rfl

end ServiceDescription.Definition
