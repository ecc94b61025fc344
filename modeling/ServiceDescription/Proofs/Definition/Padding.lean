import Mathlib.Logic.Relation
import ServiceDescription.Proofs.Definition.Alike
import ServiceDescription.Proofs.Xml.Padding
import ServiceDescription.Proofs.Xml.Plain

/-! Nodes that a description does not depend on. However many comments, processing instructions and
foreign elements are put into a definitions element, one after the other, the description is the
same. -/
namespace ServiceDescription.Definition
open Xml

/-- One unread node more leaves the outcome as it is. -/
theorem outcome_padded {n n' : Node} (h : Node.Padded false n n') :
    (read false (.root n)).outcome = (read false (.root n')).outcome := by
  have hscope : (Located.root n).scope = (Located.root n').scope := by cases h <;> rfl
  exact (like_of_rel (Located.UpToPadding.padded [] [] [] h)).readAlike.outcome_eq hscope

/-- A definitions element is read to one description with and without any number of unread nodes. -/
theorem read_paddingInvisible {n n' : Node} (h : Relation.ReflTransGen (Node.Padded false) n n') :
    ∃ d : Definition, (read false (.root n)).outcome = .ok d ∧
      (read false (.root n')).outcome = .ok d := by
  induction h with
  | refl => exact ⟨_, outcome_read false _, outcome_read false _⟩
  | tail _ hstep ih =>
    obtain ⟨d, hd, hd'⟩ := ih
    exact ⟨d, hd, outcome_padded hstep ▸ hd'⟩

/-- A simple type, a complex type and a documented operation, with room for other nodes in each. -/
def submitOrder (ahead members text : List Node) : Node :=
  .plain "definitions" [("targetNamespace", "urn:a")] [
    .plain "types" [] [.plain "schema" [("targetNamespace", "urn:a")] [
      .plain "simpleType" [("name", "Size")]
        (ahead ++ [.plain "restriction" [("base", "string")] []]),
      .plain "complexType" [("name", "Order")] [.plain "sequence" [] members]]],
    .plain "portType" [("name", "Port")] [
      .plain "operation" [("name", "Submit")] [.plain "documentation" [] text]]]

def sizeMember : Node := .plain "element" [("name", "size"), ("type", "Size")] []

/-- A processing instruction ahead of a restriction, an annotation among members, and a comment that
splits the text of a documentation. -/
theorem read_paddingInvisible_submitOrder : ∃ d : Definition,
    (read false (.root (submitOrder [] [sizeMember] [.text "Takes orders"]))).outcome = .ok d ∧
    (read false (.root (submitOrder [.instruction "check" "sizes"]
      [.plain "annotation" [] [sizeMember], sizeMember]
      [.text "Takes ", .comment "all", .text "orders"]))).outcome = .ok d := by
  have hinstruction : Node.Padded false (submitOrder [] [sizeMember] [.text "Takes orders"])
      (submitOrder [.instruction "check" "sizes"] [sizeMember] [.text "Takes orders"]) :=
    .within _ [] [_] (.within _ [] [] (.within _ [] [_] (.here _
      (.between [] [_] (.instruction _ "check" "sizes")))))
  have hannotation : Node.Padded false
      (submitOrder [.instruction "check" "sizes"] [sizeMember] [.text "Takes orders"])
      (submitOrder [.instruction "check" "sizes"] [.plain "annotation" [] [sizeMember], sizeMember]
        [.text "Takes orders"]) :=
    .within _ [] [_] (.within _ [] [] (.within _ [_] [] (.within _ [] [] (.here _
      (.between [] [_] (.element _ _ (by decide)))))))
  have hcomment : Node.Padded false
      (submitOrder [.instruction "check" "sizes"] [.plain "annotation" [] [sizeMember], sizeMember]
        [.text "Takes orders"])
      (submitOrder [.instruction "check" "sizes"] [.plain "annotation" [] [sizeMember], sizeMember]
        [.text "Takes ", .comment "all", .text "orders"]) :=
    .within _ [_] [] (.within _ [] [] (.within _ [] [] (.here _
      (.amid [] [] "Takes " "orders" (.comment _ "all")))))
  exact read_paddingInvisible (.tail (.tail (.single hinstruction) hannotation) hcomment)

end ServiceDescription.Definition
