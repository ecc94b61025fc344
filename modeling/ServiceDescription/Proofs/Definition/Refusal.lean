import ServiceDescription.Proofs.Definition.Reading
import ServiceDescription.Source

/-! What is refused. Once there is a document, only its root element decides: the name and the
namespace of this element are looked at before anything else, and from then on nothing fails, whatever
the tree holds. The catalog takes every declaration because it is frozen only when all of them have
been read. -/
namespace ServiceDescription.Definition
open Xml Schema Schema.Catalog

/-- The result of reading, or the refusal, events aside. -/
def Reading.outcome {α : Type} (x : Reading α) : Except Error α := x.run.value

/-- A root that is not refused is read, and what reading comes to is not changed. -/
theorem outcome_ofRoot (strict : Bool) (l : Located) :
    (ofRoot strict (some l)).outcome =
      match rootError? l with
      | some e => .error e
      | none => (read strict l).outcome.mapError .catalog := by
  rw [ofRoot]
  cases rootError? l with
  | some e => rfl
  | none =>
    by_cases hspace : l.space = ""
    · simp only [hspace, if_true]
      rfl
    · simp only [hspace, if_false]
      rfl

end ServiceDescription.Definition
