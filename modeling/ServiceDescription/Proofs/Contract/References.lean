import ServiceDescription.Contract.Binding
import ServiceDescription.Contract.Service
import ServiceDescription.Proofs.Xml.Renaming

/-! References between the parts of a description, and the nodes that carry them: ports refer to
bindings, bindings to interfaces, and the inputs, outputs and faults of operations and the headers of
messages on the wire refer to messages. Each reference is an attribute, resolved where it stands. -/
namespace ServiceDescription

/-- A prefix is bound to a namespace. The prefix of XML itself is bound without a declaration. -/
def Xml.Scope.Binds (scope : Xml.Scope) (pre uri : String) : Prop :=
  if pre = "xml" then uri = Vocabulary.xml else scope.namespace? pre = some uri

namespace Xml.QualifiedName
variable {scope : Scope} {pre uri : String}

lemma namespaceOf_of_binds (h : scope.Binds pre uri) : namespaceOf scope pre = uri := by
  unfold Scope.Binds at h
  unfold namespaceOf
  split at h
  · next hxml => rw [if_pos hxml, h]
  · next hxml => rw [if_neg hxml, h, Option.getD_some]

lemma namespaceOf_of_unbound (h : ∀ uri, ¬scope.Binds pre uri) : namespaceOf scope pre = "" := by
  have hxml : pre ≠ "xml" := by
    intro hpre
    apply h Vocabulary.xml
    rw [Scope.Binds, if_pos hpre]
  unfold namespaceOf
  rw [if_neg hxml]
  cases hs : scope.namespace? pre with
  | none => rfl
  | some uri =>
    exfalso
    apply h uri
    rw [Scope.Binds, if_neg hxml, hs]

end Xml.QualifiedName

namespace Contract
open Xml Schema

/-- What the attribute of a node refers to, in a description with the target namespace `space`. An
attribute that is missing gives the empty name in no namespace. Otherwise the value counts without the
blanks around it: a value without a colon names something of the target namespace, and in any other
one the part before the first colon is a prefix of the scope at the node. -/
structure RefersBy (attr space : String) (l : Located) (n : ExpandedName) : Prop where
  missing : l.attr? attr = none → n = ⟨"", ""⟩
  plain : ∀ raw, l.attr? attr = some raw → ':' ∉ (Text.trim raw).toList → n = ⟨space, Text.trim raw⟩
  prefixed : ∀ raw pre rest, l.attr? attr = some raw → Text.trim raw = pre ++ ":" ++ rest →
    ':' ∉ pre.toList → n.localName = rest ∧ (∀ uri, l.scope.Binds pre uri → n.space = uri) ∧
      ((∀ uri, ¬l.scope.Binds pre uri) → n.space = "")

theorem refersBy_reference? (attr space : String) (l : Located) :
    RefersBy attr space l ((reference? l attr space).getD ⟨"", ""⟩) where
  missing h := by rw [reference?, h, Option.map_none, Option.getD_none]
  plain raw h hcolon := by
    rw [Text.toList_trim] at hcolon
    rw [reference?, h, Option.map_some, Option.getD_some, QualifiedName.resolve_of_notMem hcolon]
  prefixed raw pre rest h htrim hpre := by
    have hs : Text.trimChars raw.toList = pre.toList ++ ':' :: rest.toList := by
      rw [← Text.toList_trim, htrim]
      simp
    rw [reference?, h, Option.map_some, Option.getD_some, QualifiedName.resolve_of_colon hs hpre,
      String.ofList_toList, String.ofList_toList]
    exact ⟨rfl, fun _ hbinds => QualifiedName.namespaceOf_of_binds hbinds,
      fun hunbound => QualifiedName.namespaceOf_of_unbound hunbound⟩

def Port.reference (p : Port) : ExpandedName := ⟨p.bindingSpace, p.bindingName⟩

def Binding.reference (b : Binding) : ExpandedName := ⟨b.interfaceSpace, b.interfaceName⟩

def OperationMessage.reference (m : OperationMessage) : ExpandedName :=
  ⟨m.messageSpace, m.messageName⟩

def Header.reference (h : Header) : ExpandedName := ⟨h.messageSpace, h.messageName⟩

lemma Port.refersBy (l : Located) (space : String) :
    RefersBy "binding" space l (ofNode l space).reference := refersBy_reference? "binding" space l

lemma Binding.refersBy (l : Located) (space : String) :
    RefersBy "type" space l (ofNode l space).reference := refersBy_reference? "type" space l

lemma OperationMessage.refersBy (l : Located) (space : String) :
    RefersBy "message" space l (ofNode l space).reference := refersBy_reference? "message" space l

lemma Header.refersBy (l : Located) (space : String) :
    RefersBy "message" space l (ofNode l space).reference := refersBy_reference? "message" space l

/-- The input, the output and the faults of an operation, as far as it has them. -/
def Operation.messages (o : Operation) : List OperationMessage :=
  o.input.toList ++ o.output.toList ++ o.faults

def BoundOperation.messages (o : BoundOperation) : List BoundMessage :=
  o.input.toList ++ o.output.toList ++ o.faults

def operationMessageNodes (l : Located) : List Located :=
  (l.childNamed? "input" none).toList ++ (l.childNamed? "output" none).toList ++
    l.childrenNamed "fault" none

lemma Operation.messages_ofNode (l : Located) (name : Option String) (space : String) :
    (ofNode l name space).messages =
      (operationMessageNodes l).map (OperationMessage.ofNode · space) := by
  unfold messages operationMessageNodes ofNode
  cases l.childNamed? "input" none <;> cases l.childNamed? "output" none <;> simp

lemma BoundOperation.messages_ofNode (l : Located) (name : Option String) (space : String) :
    (ofNode l name space).messages =
      (operationMessageNodes l).map (BoundMessage.ofNode · space) := by
  unfold messages operationMessageNodes ofNode
  cases l.childNamed? "input" none <;> cases l.childNamed? "output" none <;> simp

lemma BoundMessage.headers_ofNode (l : Located) (space : String) :
    (ofNode l space).headers =
      (l.childrenNamed "header" (some soapNamespaces)).map (Header.ofNode · space) := by
  unfold ofNode
  split <;> rfl

/-- What does not depend on the names handed out is the same as without them. -/
lemma flatMap_zipWith {α β γ δ : Type} {f : α → β → γ} {g : γ → List δ} {h : α → List δ}
    (hfg : ∀ a b, g (f a b) = h a) (as : List α) (bs : List β) (hlength : as.length ≤ bs.length) :
    (List.zipWith f as bs).flatMap g = as.flatMap h := by
  induction as generalizing bs with
  | nil => rfl
  | cons a as ih =>
    cases bs with
    | nil => simp at hlength
    | cons b bs =>
      have hrest := ih bs (by simpa using hlength)
      simp only [List.zipWith_cons_cons, List.flatMap_cons, hfg, hrest]

lemma length_declaredOperations (l : Located) :
    (l.childrenNamed "operation" none).length ≤
      (Overload.disambiguate (declaredOperations l)).length := by
  rw [Overload.length_disambiguate, declaredOperations, List.length_map]

/-- The nodes under an interface that refer to messages. -/
def interfaceMessageNodes (l : Located) : List Located :=
  (l.childrenNamed "operation" none).flatMap operationMessageNodes

theorem Interface.messages_ofNode (l : Located) (space : String) :
    (ofNode l space).operations.flatMap Operation.messages =
      (interfaceMessageNodes l).map (OperationMessage.ofNode · space) := by
  unfold ofNode interfaceMessageNodes
  rw [flatMap_zipWith (fun o name => Operation.messages_ofNode o (some name) space) _ _
    (length_declaredOperations l), List.map_flatMap]

/-- The headers of the messages on the wire under a binding. -/
def bindingHeaderNodes (l : Located) : List Located :=
  (l.childrenNamed "operation" none).flatMap fun o =>
    (operationMessageNodes o).flatMap (·.childrenNamed "header" (some soapNamespaces))

def BoundOperation.headers (o : BoundOperation) : List Header := o.messages.flatMap (·.headers)

lemma BoundOperation.headers_ofNode (l : Located) (name : Option String) (space : String) :
    (ofNode l name space).headers =
      ((operationMessageNodes l).flatMap (·.childrenNamed "header" (some soapNamespaces))).map
        (Header.ofNode · space) := by
  unfold headers
  rw [messages_ofNode, List.flatMap_map, List.map_flatMap]
  simp only [BoundMessage.headers_ofNode]

theorem Binding.headers_ofNode (l : Located) (space : String) :
    (ofNode l space).operations.flatMap BoundOperation.headers =
      (bindingHeaderNodes l).map (Header.ofNode · space) := by
  unfold ofNode bindingHeaderNodes
  rw [flatMap_zipWith (fun o name => BoundOperation.headers_ofNode o (some name) space) _ _
    (length_declaredOperations l), List.map_flatMap]

end Contract
end ServiceDescription
