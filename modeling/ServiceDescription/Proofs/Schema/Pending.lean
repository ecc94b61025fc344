import ServiceDescription.Proofs.Schema.Reachable
import ServiceDescription.Proofs.Schema.Reading
import ServiceDescription.Proofs.Xml.Plain

/-! The members of a complex type beside the inline bodies that it asks for. Requests are made from
the nodes, while members may get another type when the type is looked at as an array. A member with
an inline body has a type by then and keeps it, so that what a request registers is what the member
refers to. -/
namespace ServiceDescription.Schema
open Xml

/-- Nodes, the members that they declare and requests for inline bodies, gone through together. Each
node has its member. A node with an inline body has its request as well, under the name and the
namespace of the type that the member refers to. -/
inductive InStep (uri : String) : List Located → List Element → List InlineType → Prop
  | nil : InStep uri [] [] []
  | referring {m : Located} {e : Element} {ms : List Located} {es : List Element}
      {rs : List InlineType} (he : Element.Declares uri m e) (hm : Element.inlineBody? m = none)
      (h : InStep uri ms es rs) : InStep uri (m :: ms) (e :: es) rs
  | inline {m body : Located} {e : Element} {ms : List Located} {es : List Element}
      {rs : List InlineType} (he : Element.Declares uri m e)
      (hm : Element.inlineBody? m = some body) (hname : e.typeName = e.name ++ "Type")
      (hspace : e.typeSpace = uri) (h : InStep uri ms es rs) :
      InStep uri (m :: ms) (e :: es) (⟨e.typeName, body, e.typeSpace⟩ :: rs)

namespace Element
variable {uri : String} {m body : Located}

lemma inlineTypes_of_none (h : inlineBody? m = none) : inlineTypes m uri = [] := by
  rw [inlineTypes, h]
  rfl

lemma inlineTypes_of_some (h : inlineBody? m = some body) :
    inlineTypes m uri = [⟨inlineName m, body, uri⟩] := by
  rw [inlineTypes, h]
  rfl

end Element

/-- Members that are as their nodes declare them are in step with what the nodes ask for. -/
lemma inStep_of_declares {uri : String} {ms : List Located} {es : List Element}
    (h : List.Forall₂ (Element.Declares uri) ms es) :
    InStep uri ms es (ms.flatMap (Element.inlineTypes · uri)) := by
  induction h with
  | nil => exact .nil
  | @cons m e ms es he hrest ih =>
    rw [List.flatMap_cons]
    cases hm : Element.inlineBody? m with
    | none =>
      rw [Element.inlineTypes_of_none hm, List.nil_append]
      exact .referring he hm ih
    | some body =>
      obtain ⟨hname, hspace, -⟩ := he.inline (by rw [hm]; rfl)
      have hrequest : Element.inlineTypes m uri = [⟨e.typeName, body, e.typeSpace⟩] := by
        rw [Element.inlineTypes_of_some hm, hname, hspace]
      rw [hrequest, List.singleton_append]
      refine .inline he hm ?_ hspace ih
      rw [hname, he.name, Element.inlineName]

namespace ComplexType

/-- A complex type is read with its members in step with the requests for inline bodies. All is in
the namespace of the schema, and the bodies stand in the node of the type, none of them within
another one. -/
theorem read_inStep (l : Located) (uri : String) (name : Option String) :
    (read l uri name).value.space = uri ∧
      InStep uri (memberNodes l) (read l uri name).value.elements (inlineTypes l uri) ∧
      (∀ r ∈ inlineTypes l uri, r.body ∈ l.descendants) ∧
      (inlineTypes l uri).Pairwise fun r s =>
        r.Apart s ∧ r.body ∉ s.body.descendants ∧ s.body ∉ r.body.descendants := by
  have hdeclared : List.Forall₂ (Element.Declares uri) (memberNodes l)
      (read l uri name).value.elements := (readFrom_read l uri name).imp fun _ _ he => he.toDeclares
  refine ⟨space_read l uri name, inStep_of_declares hdeclared, ?_, ?_⟩
  · intro r hr
    exact mem_descendants_of_mem_inlineTypes hr
  · refine (pairwise_inlineTypes l uri).imp fun {r s} hapart => ?_
    have hsym : s.body.Apart r.body := symm hapart
    exact ⟨hapart, hapart.notMem_descendants, hsym.notMem_descendants⟩

/-- A named array whose only member has both an inline body and a type attribute. -/
def inlineRows : Located := .root <| .plain "complexType" [("name", "ArrayOfRow")] [
  .plain "sequence" [] [
    .plain "element" [("name", "Line"), ("type", "Row")] [.plain "complexType" [] []]]]

example : ((read inlineRows "urn:a" none).value.elements.map (·.typeName),
    (inlineTypes inlineRows "urn:a").map (·.typeName)) = (["LineType"], ["LineType"]) := by
  decide +kernel

end ComplexType
end ServiceDescription.Schema
