import ServiceDescription.Contract.Binding
import ServiceDescription.Contract.Message
import ServiceDescription.Contract.Service
import ServiceDescription.Proofs.Schema.Alike

/-! Nodes that reading cannot tell apart give equal messages, interfaces, bindings and services. Each
reference is resolved at the node that carries it, be it a part, an input, a header or a port. -/
namespace ServiceDescription.Contract
open Xml Schema Lookup Likeness

variable {R : Located → Located → Prop} [Likeness R] {l l' : Located}

theorem Part.ofNode_eq (h : R l l') (space : String) : ofNode l space = ofNode l' space := by
  rw [ofNode, ofNode, attr_eq h "name" (by decide), reference?_eq h "element" (by decide),
    reference?_eq h "type" (by decide)]

theorem Message.ofNode_eq (h : R l l') (space : String) : ofNode l space = ofNode l' space := by
  have hparts : (l.childrenNamed "part" none).map (Part.ofNode · space) =
      (l'.childrenNamed "part" none).map (Part.ofNode · space) :=
    map_eq_of_forall₂ (childrenNamed h "part" (by decide) none) fun _ _ hp =>
      Part.ofNode_eq hp space
  rw [ofNode, ofNode, attr_eq h "name" (by decide), hparts]

lemma declaredOperations_eq (h : R l l') : declaredOperations l = declaredOperations l' :=
  map_eq_of_forall₂ (childrenNamed h "operation" (by decide) none) fun _ _ ho =>
    attr_eq ho "name" (by decide)

theorem OperationMessage.ofNode_eq (h : R l l') (space : String) :
    ofNode l space = ofNode l' space := by
  rw [ofNode, ofNode, attr_eq h "name" (by decide), reference?_eq h "message" (by decide)]

theorem Operation.ofNode_eq (h : R l l') (name : Option String) (space : String) :
    ofNode l name space = ofNode l' name space := by
  have hmessage : ∀ m m' : Located, R m m' →
      OperationMessage.ofNode m space = OperationMessage.ofNode m' space :=
    fun _ _ hm => OperationMessage.ofNode_eq hm space
  simp only [ofNode, attr_eq h "name" (by decide), documentation_eq h,
    map_eq_of_rel (childNamed? h "input" (by decide) none) hmessage,
    map_eq_of_rel (childNamed? h "output" (by decide) none) hmessage,
    map_eq_of_forall₂ (childrenNamed h "fault" (by decide) none) hmessage]

theorem Interface.ofNode_eq (h : R l l') (space : String) :
    ofNode l space = ofNode l' space := by
  rw [ofNode, ofNode, attr_eq h "name" (by decide), declaredOperations_eq h,
    zipWith_eq_of_forall₂ (childrenNamed h "operation" (by decide) none) fun _ _ name ho =>
      Operation.ofNode_eq ho (some name) space]

lemma rel_soapChild? (h : R l l') (name : String) (hname : name ∈ constructNames) :
    Option.Rel R (soapChild? l name) (soapChild? l' name) :=
  childNamed? h name hname (some soapNamespaces)

theorem Header.ofNode_eq (h : R l l') (space : String) : ofNode l space = ofNode l' space := by
  simp only [ofNode, reference?_eq h "message" (by decide), attr_eq h "part" (by decide),
    attr?_eq h "use" (by decide), attr?_eq h "encodingStyle" (by decide),
    attr?_eq h "namespace" (by decide)]

theorem BoundMessage.ofNode_eq (h : R l l') (space : String) :
    ofNode l space = ofNode l' space := by
  have hheaders : (l.childrenNamed "header" (some soapNamespaces)).map (Header.ofNode · space) =
      (l'.childrenNamed "header" (some soapNamespaces)).map (Header.ofNode · space) :=
    map_eq_of_forall₂ (childrenNamed h "header" (by decide) (some soapNamespaces)) fun _ _ hheader =>
      Header.ofNode_eq hheader space
  rw [ofNode, ofNode, hheaders, attr_eq h "name" (by decide)]
  obtain ⟨hb, hb'⟩ | ⟨body, body', hb, hb', hbody⟩ :=
    cases_of_rel (rel_or (rel_soapChild? h "body" (by decide))
      (rel_soapChild? h "fault" (by decide)))
  · rw [hb, hb']
  · rw [hb, hb']
    simp only [attr?_eq hbody "use" (by decide), attr?_eq hbody "parts" (by decide),
      attr_eq hbody "encodingStyle" (by decide), attr_eq hbody "namespace" (by decide)]

theorem BoundOperation.ofNode_eq (h : R l l') (name : Option String) (space : String) :
    ofNode l name space = ofNode l' name space := by
  have hprotocol := rel_soapChild? h "operation" (by decide)
  have hmessage : ∀ m m' : Located, R m m' →
      BoundMessage.ofNode m space = BoundMessage.ofNode m' space :=
    fun _ _ hm => BoundMessage.ofNode_eq hm space
  simp only [ofNode, attr_eq h "name" (by decide),
    map_eq_of_rel hprotocol fun _ _ hp => attr_eq hp "soapAction" (by decide),
    map_eq_of_rel hprotocol fun _ _ hp => attr_eq hp "style" (by decide),
    map_eq_of_rel (childNamed? h "input" (by decide) none) hmessage,
    map_eq_of_rel (childNamed? h "output" (by decide) none) hmessage,
    map_eq_of_forall₂ (childrenNamed h "fault" (by decide) none) hmessage]

theorem Binding.ofNode_eq (h : R l l') (space : String) : ofNode l space = ofNode l' space := by
  have hoperations := zipWith_eq_of_forall₂ (childrenNamed h "operation" (by decide) none)
    (fun _ _ name ho => BoundOperation.ofNode_eq ho (some name) space)
    (Overload.disambiguate (declaredOperations l'))
  simp only [ofNode, attr_eq h "name" (by decide), reference?_eq h "type" (by decide),
    declaredOperations_eq h, hoperations]
  obtain ⟨hp, hp'⟩ | ⟨p, p', hp, hp', hprotocol⟩ :=
    cases_of_rel (rel_soapChild? h "binding" (by decide))
  · rw [hp, hp']
  · rw [hp, hp']
    simp only [Option.map_some, Option.any_some, Option.bind_some, space_eq hprotocol,
      attr_eq hprotocol "transport" (by decide), attr?_eq hprotocol "style" (by decide)]

theorem Port.ofNode_eq (h : R l l') (space : String) : ofNode l space = ofNode l' space := by
  have haddress := map_eq_of_rel (childNamed? h "address" (by decide) (some addressNamespaces))
    fun _ _ ha => attr_eq ha "location" (by decide)
  simp only [ofNode, attr_eq h "name" (by decide), reference?_eq h "binding" (by decide), haddress]

theorem Service.ofNode_eq (h : R l l') (space : String) : ofNode l space = ofNode l' space := by
  have hports : (l.childrenNamed "port" none).map (Port.ofNode · space) =
      (l'.childrenNamed "port" none).map (Port.ofNode · space) :=
    map_eq_of_forall₂ (childrenNamed h "port" (by decide) none) fun _ _ hp =>
      Port.ofNode_eq hp space
  rw [ofNode, ofNode, attr_eq h "name" (by decide), documentation_eq h, hports]

end ServiceDescription.Contract
