import ServiceDescription.Proofs.Contract.References
import ServiceDescription.Proofs.Definition.Reading
import ServiceDescription.Proofs.Xml.Plain

/-! References within a whole description. Each one is resolved at the node that carries it, and
looking it up finds what is read from the first child of the root with the name, or nothing. A name
without a prefix, or with a prefix that is bound to the target namespace, stays in the description. -/
namespace ServiceDescription.Definition
open Xml Schema Contract

/-- What looking up a name has to find among the children of the root that are of a kind. Everything
of a description lives in its target namespace, and of several children of one name the first one
counts. -/
inductive Resolves {α : Type} (root : Located) (kind : String) (make : Located → α)
    (n : ExpandedName) : Option α → Prop
  | foreign (h : n.space ≠ root.attr "targetNamespace") : Resolves root kind make n none
  | missing (h : ∀ c ∈ root.childrenNamed kind none, c.attr "name" ≠ n.localName) :
      Resolves root kind make n none
  | found {before after : List Located} {c : Located}
      (hspace : n.space = root.attr "targetNamespace")
      (hchildren : root.childrenNamed kind none = before ++ c :: after)
      (hname : c.attr "name" = n.localName)
      (hfirst : ∀ b ∈ before, b.attr "name" ≠ n.localName) :
      Resolves root kind make n (some (make c))

section Lookup
variable {α : Type} {root : Located} {kind : String} {make : Located → α} {key : α → String}

/-- What is made of the children is looked up under the names that the children have. -/
theorem resolves_find? (root : Located) (kind : String)
    (hkey : ∀ c, key (make c) = c.attr "name") (n : ExpandedName) :
    Resolves root kind make n
      (if n.space = root.attr "targetNamespace" then
        ((root.childrenNamed kind none).map make).find? (key · = n.localName)
      else none) := by
  by_cases hspace : n.space = root.attr "targetNamespace"
  · rw [if_pos hspace, List.find?_map]
    cases hfind : (root.childrenNamed kind none).find? _ with
    | none =>
      rw [Option.map_none]
      apply Resolves.missing
      intro c hc
      have hne := List.find?_eq_none.mp hfind c hc
      simpa [hkey] using hne
    | some c =>
      obtain ⟨hc, before, after, hchildren, hfirst⟩ := List.find?_eq_some_iff_append.mp hfind
      rw [Option.map_some]
      apply Resolves.found hspace hchildren
      · simpa [hkey] using hc
      · intro b hb
        simpa [hkey] using hfirst b hb
  · rw [if_neg hspace]
    exact .foreign hspace

/-- A reference and what looking it up finds, next to the node that carries it. -/
structure Linked (root : Located) (attr kind : String) (make : Located → α) (l : Located)
    (n : ExpandedName) (found : Option α) : Prop where
  refersBy : RefersBy attr (root.attr "targetNamespace") l n
  resolves : Resolves root kind make n found

lemma forall₂_linked {β : Type} {attr : String} {ofNode : Located → β}
    {reference : β → ExpandedName} {lookup : β → Option α}
    (hrefers : ∀ l, RefersBy attr (root.attr "targetNamespace") l (reference (ofNode l)))
    (hresolves : ∀ b, Resolves root kind make (reference b) (lookup b)) (nodes : List Located) :
    List.Forall₂ (fun l b => Linked root attr kind make l (reference b) (lookup b)) nodes
      (nodes.map ofNode) := by
  rw [List.forall₂_map_right_iff, List.forall₂_same]
  intro l _
  exact ⟨hrefers l, hresolves (ofNode l)⟩

end Lookup

section Root
variable (root : Located)

def portNodes : List Located :=
  (root.childrenNamed "service" none).flatMap (·.childrenNamed "port" none)

def messageNodes : List Located :=
  (root.childrenNamed "portType" none).flatMap interfaceMessageNodes

def headerNodes : List Located := (root.childrenNamed "binding" none).flatMap bindingHeaderNodes

/-- Every reference of a description is linked: those of the ports, of the bindings, of the messages
of operations and of the headers, each list in document order. -/
structure AllLinked (d : Definition) : Prop where
  ports : List.Forall₂ (fun l p => Linked root "binding" "binding"
      (Binding.ofNode · (root.attr "targetNamespace")) l p.reference
      (d.binding? p.bindingName (some p.bindingSpace)))
    (portNodes root) (d.services.flatMap (·.ports))
  bindings : List.Forall₂ (fun l b => Linked root "type" "portType"
      (Interface.ofNode · (root.attr "targetNamespace")) l b.reference (d.interfaceOf? b))
    (root.childrenNamed "binding" none) d.bindings
  messages : List.Forall₂ (fun l m => Linked root "message" "message"
      (Message.ofNode · (root.attr "targetNamespace")) l m.reference
      (d.message? m.messageName (some m.messageSpace)))
    (messageNodes root) (d.interfaces.flatMap fun i => i.operations.flatMap Operation.messages)
  headers : List.Forall₂ (fun l h => Linked root "message" "message"
      (Message.ofNode · (root.attr "targetNamespace")) l h.reference
      (d.message? h.messageName (some h.messageSpace)))
    (headerNodes root) (d.bindings.flatMap fun b => b.operations.flatMap BoundOperation.headers)

end Root

section Description
variable {root : Located} {d : Definition}

lemma owns_some {uri : String} : d.owns (some uri) = true ↔ uri = d.targetNamespace := by
  simp [owns]

/-- What the lists of a description are made from. -/
structure MadeFrom (root : Located) (d : Definition) : Prop where
  targetNamespace : d.targetNamespace = root.attr "targetNamespace"
  messages : d.messages =
    (root.childrenNamed "message" none).map (Message.ofNode · (root.attr "targetNamespace"))
  interfaces : d.interfaces =
    (root.childrenNamed "portType" none).map (Interface.ofNode · (root.attr "targetNamespace"))
  bindings : d.bindings =
    (root.childrenNamed "binding" none).map (Binding.ofNode · (root.attr "targetNamespace"))
  services : d.services =
    (root.childrenNamed "service" none).map (Service.ofNode · (root.attr "targetNamespace"))

lemma exists_madeFrom (strict : Bool) (root : Located) :
    ∃ d, (read strict root).outcome = .ok d ∧ MadeFrom root d :=
  ⟨_, outcome_read strict root, rfl, rfl, rfl, rfl, rfl⟩

variable (h : MadeFrom root d)
include h

lemma MadeFrom.resolves_message? (n : ExpandedName) :
    Resolves root "message" (Message.ofNode · (root.attr "targetNamespace")) n
      (d.message? n.localName (some n.space)) := by
  have hname : ∀ l, (Message.ofNode l (root.attr "targetNamespace")).name = l.attr "name" :=
    fun _ => rfl
  have hfind := resolves_find? root "message" hname n
  simpa only [message?, owns_some, h.targetNamespace, h.messages] using hfind

lemma MadeFrom.resolves_interface? (n : ExpandedName) :
    Resolves root "portType" (Interface.ofNode · (root.attr "targetNamespace")) n
      (d.interface? n.localName (some n.space)) := by
  have hname : ∀ l, (Interface.ofNode l (root.attr "targetNamespace")).name = l.attr "name" :=
    fun _ => rfl
  have hfind := resolves_find? root "portType" hname n
  simpa only [interface?, owns_some, h.targetNamespace, h.interfaces] using hfind

lemma MadeFrom.resolves_binding? (n : ExpandedName) :
    Resolves root "binding" (Binding.ofNode · (root.attr "targetNamespace")) n
      (d.binding? n.localName (some n.space)) := by
  have hname : ∀ l, (Binding.ofNode l (root.attr "targetNamespace")).name = l.attr "name" :=
    fun _ => rfl
  have hfind := resolves_find? root "binding" hname n
  simpa only [binding?, owns_some, h.targetNamespace, h.bindings] using hfind

lemma MadeFrom.ports_eq :
    d.services.flatMap (·.ports) =
      (portNodes root).map (Port.ofNode · (root.attr "targetNamespace")) := by
  rw [h.services, portNodes, List.flatMap_map, List.map_flatMap]
  rfl

lemma MadeFrom.messages_eq :
    (d.interfaces.flatMap fun i => i.operations.flatMap Operation.messages) =
      (messageNodes root).map (OperationMessage.ofNode · (root.attr "targetNamespace")) := by
  rw [h.interfaces, messageNodes, List.flatMap_map, List.map_flatMap]
  simp only [Interface.messages_ofNode]

lemma MadeFrom.headers_eq :
    (d.bindings.flatMap fun b => b.operations.flatMap BoundOperation.headers) =
      (headerNodes root).map (Header.ofNode · (root.attr "targetNamespace")) := by
  rw [h.bindings, headerNodes, List.flatMap_map, List.map_flatMap]
  simp only [Binding.headers_ofNode]

end Description

/-- Every definitions element is read to a description in which every reference leads to what is read
from the first child of the root that has its name, if it stays in the target namespace and there is
such a child, and to nothing otherwise. -/
theorem read_allLinked (strict : Bool) (root : Located) :
    ∃ d : Definition, (read strict root).outcome = .ok d ∧ AllLinked root d := by
  obtain ⟨d, hread, h⟩ := exists_madeFrom strict root
  refine ⟨d, hread, ?_, ?_, ?_, ?_⟩
  · rw [h.ports_eq]
    apply forall₂_linked
    · exact fun l => Port.refersBy l _
    · exact fun p => h.resolves_binding? p.reference
  · rw [h.bindings]
    apply forall₂_linked
    · exact fun l => Binding.refersBy l _
    · exact fun b => h.resolves_interface? b.reference
  · rw [h.messages_eq]
    apply forall₂_linked
    · exact fun l => OperationMessage.refersBy l _
    · exact fun m => h.resolves_message? m.reference
  · rw [h.headers_eq]
    apply forall₂_linked
    · exact fun l => Header.refersBy l _
    · exact fun header => h.resolves_message? header.reference

/-- Two bindings of one name, and two ports that refer to it with a prefix. The first port binds the
prefix anew to the target namespace. -/
def portsInTwoScopes : Located := .root <| .element
  { name := ⟨"", "definitions"⟩
    declarations := [("t", "urn:other")]
    attributes := [{ name := ⟨"", "targetNamespace"⟩, value := "urn:t" }] }
  [.plain "service" [] [
      .element
        { name := ⟨"", "port"⟩
          declarations := [("t", "urn:t")]
          attributes := [{ name := ⟨"", "binding"⟩, value := " t:Soap " }] }
        [],
      .plain "port" [("binding", "t:Soap")] []],
    .plain "binding" [("name", "Soap"), ("type", "First")] [],
    .plain "binding" [("name", "Soap"), ("type", "Second")] []]

example : (read false portsInTwoScopes).outcome.toOption.map (fun d =>
    (d.services.flatMap (·.ports)).map fun p =>
      (d.binding? p.bindingName (some p.bindingSpace)).map (·.interfaceName)) =
    some [some "First", none] := by decide +kernel

end ServiceDescription.Definition
