import ServiceDescription.Proofs.Definition.Alike
import ServiceDescription.Proofs.Xml.Arrangement
import ServiceDescription.Proofs.Xml.Plain

/-! The order of declarations. A definitions element and each of its schemas is read kind by kind, so
only the order within a kind counts. However messages, interfaces, bindings and services stand to one
another, and types and elements in a schema, the description is the same. -/
namespace ServiceDescription.Definition
open Xml Schema Schema.Catalog

/-- Two definitions elements with the same children of each kind, and with schemas that have the same
children of each kind, one by one. -/
structure SameDeclarations (root root' : Located) : Prop where
  children : root.SameByKind kinds root'
  schemas : List.Forall₂ (Located.SameByKind Fragment.kinds)
    (schemasOf (root.childNamed? "types" none)) (schemasOf (root'.childNamed? "types" none))

variable {root root' : Located}

lemma SameDeclarations.like (h : SameDeclarations root root') : Like Located.Alike root root' where
  targetNamespace_eq := h.children.attr_eq "targetNamespace"
  schemas := h.schemas.imp fun _ _ hs =>
    ⟨hs.attr_eq "targetNamespace", fun _ hkind => hs.childrenNamed hkind⟩
  childrenNamed _ hkind := h.children.childrenNamed hkind

/-- Elements with the same declarations are read to the same description. Where their own scopes are
written differently, the tables of namespaces may be so too, but they bind every prefix alike. -/
theorem read_orderIndependent (h : SameDeclarations root root') :
    ∃ d d' : Definition, (read false root).outcome = .ok d ∧ (read false root').outcome = .ok d' ∧
      d' = { d with namespaces := d'.namespaces } ∧ Scope.Agree d.namespaces d'.namespaces ∧
      (root.scope = root'.scope → d = d') := by
  have hsame := h.like.readAlike.outcome_eq
  obtain ⟨d, hd, hd'⟩ := h.like.readAlike
  refine ⟨d, _, hd, hd', rfl, fun pre => ?_, fun hscope => ?_⟩
  · have hnamespaces : d.namespaces = root.scope.visible := by
      rw [outcome_read] at hd
      exact congrArg namespaces (Except.ok.inj hd).symm
    rw [hnamespaces, Scope.agree_visible, h.children.scope_agree, Scope.agree_visible]
  · exact Except.ok.inj (hd.symm.trans ((hsame hscope).trans hd'))

/-- A definitions element with one schema, and other declarations before and behind the types. -/
def around (before declarations after : List Node) : Located := .root <|
  .plain "definitions" [("targetNamespace", "urn:a")] <|
    before ++ .plain "types" [] [.plain "schema" [("targetNamespace", "urn:a")] declarations] :: after

/-- An element that refers forward to a declared type, and asks for a type of its own under a name
that is taken. -/
def orderElement : Node := .plain "element" [("name", "Order")] [.plain "complexType" []
  [.plain "sequence" [] [.plain "element" [("name", "item"), ("type", "ItemType")] []]]]

def orderType : Node := .plain "complexType" [("name", "OrderType")] []

def itemType : Node := .plain "simpleType" [("name", "ItemType")] []

def orderMessage : Node :=
  .plain "message" [("name", "In")] [.plain "part" [("element", "Order")] []]

def orderPort : Node := .plain "portType" [("name", "Port")] []

/-- The declared type stands before the element in one schema and behind it in the other one. -/
theorem read_orderIndependent_around : ∃ d : Definition,
    (read false (around [orderPort] [orderElement, orderType, itemType] [orderMessage])).outcome =
      .ok d ∧
    (read false (around [orderMessage, orderPort] [itemType, orderType, orderElement] [])).outcome =
      .ok d := by
  have hsame : SameDeclarations
      (around [orderPort] [orderElement, orderType, itemType] [orderMessage])
      (around [orderMessage, orderPort] [itemType, orderType, orderElement] []) := by
    refine ⟨⟨fun _ => rfl, .refl _, ?_⟩, .cons ⟨fun _ => rfl, .refl _, ?_⟩ .nil⟩
    · simp only [kinds, List.forall_mem_cons]
      exact ⟨rfl, rfl, rfl, rfl, nofun⟩
    · simp only [Fragment.kinds, List.forall_mem_cons]
      exact ⟨rfl, rfl, rfl, rfl, nofun⟩
  obtain ⟨d, d', hd, hd', -, -, heq⟩ := read_orderIndependent hsame
  exact ⟨d, hd, heq rfl ▸ hd'⟩

end ServiceDescription.Definition
