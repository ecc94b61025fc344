import ServiceDescription.Text.Integer
import ServiceDescription.Text.Quoted

/-! What is reported while a service description is read: events, their severity, the part of the
reader that reports them, and computations that carry the events they report. -/
namespace ServiceDescription

inductive Severity where
  | debug | warning
  deriving DecidableEq, Repr

def Severity.label : Severity → String
  | debug => "DEBUG"
  | warning => "WARNING"

inductive Event where
  | readingFile (path : String)
  | rootWithoutNamespace
  | definitionStarted (targetNamespace : String) (bindings : Nat)
  | typesRead (complexTypes simpleTypes elements : Nat)
  | definitionRead (messages interfaces bindings services : Nat)
  | schemaStarted (targetNamespace : String)
  | schemaRejected (targetNamespace : String)
  | duplicateComplexType (name : String)
  | duplicateSimpleType (name : String)
  | unreadableOccurs (text : String)
  | recordNamedArray (name : String) (members : Nat)
  | arrayRecognised (name item : String)
  | inlineTypeKnown (name : String)
  | inlineTypePromoted (name : String) (nested : Nat)
  | suffixTaken (name : String) (index : Nat)
  | operationRenamed (name renamed : String)
  | bindingWithoutProtocol (name : String)
  | modelWritten (path : String)
  deriving DecidableEq, Repr

namespace Event

def severity : Event → Severity
  | rootWithoutNamespace | schemaRejected _ | duplicateComplexType _ | duplicateSimpleType _
  | suffixTaken _ _ => .warning
  | _ => .debug

/-- The channel on which an event is reported. -/
def channel : Event → String
  | readingFile _ | rootWithoutNamespace => "wsdl_parser"
  | definitionStarted _ _ | typesRead _ _ _ | definitionRead _ _ _ _ =>
    "wsdl_builders.definition_builder"
  | schemaStarted _ | schemaRejected _ => "wsdl_builders.types_builder"
  | duplicateComplexType _ | duplicateSimpleType _ => "wsdl_model"
  | unreadableOccurs _ => "wsdl_builders.element_builder"
  | recordNamedArray _ _ | arrayRecognised _ _ => "wsdl_builders.array_detection"
  | inlineTypeKnown _ | inlineTypePromoted _ _ => "wsdl_builders.inline_type_promotion"
  | suffixTaken _ _ | operationRenamed _ _ => "wsdl_builders.overloads"
  | bindingWithoutProtocol _ => "wsdl_builders.binding_builder"
  | modelWritten _ => "model_debug"

def message : Event → String
  | readingFile path => "Parsing WSDL file " ++ path
  | rootWithoutNamespace => "The definitions element has no namespace; assuming WSDL 1.1"
  | definitionStarted targetNamespace bindings =>
    "Building definition '" ++ targetNamespace ++ "' (" ++ toString bindings ++
      " namespace declarations)"
  | typesRead complexTypes simpleTypes elements =>
    "Types: " ++ toString complexTypes ++ " complex, " ++ toString simpleTypes ++ " simple, " ++
      toString elements ++ " elements"
  | definitionRead messages interfaces bindings services =>
    toString messages ++ " messages, " ++ toString interfaces ++ " port types, " ++
      toString bindings ++ " bindings, " ++ toString services ++ " services"
  | schemaStarted targetNamespace => "Building schema '" ++ targetNamespace ++ "'"
  | schemaRejected targetNamespace =>
    "Schema '" ++ targetNamespace ++ "' failed strict validation"
  | duplicateComplexType name =>
    "Complex type '" ++ name ++ "' is already registered; ignoring duplicate"
  | duplicateSimpleType name =>
    "Simple type '" ++ name ++ "' is already registered; ignoring duplicate"
  | unreadableOccurs text => "Ignoring unparseable occurs value " ++ Text.quoted text
  | recordNamedArray name members =>
    "'" ++ name ++ "' has " ++ toString members ++ " members; not treated as an array"
  | arrayRecognised name item => "Complex type '" ++ name ++ "' is an array of '" ++ item ++ "'"
  | inlineTypeKnown name => "Inline type '" ++ name ++ "' already registered"
  | inlineTypePromoted name nested =>
    "Promoted inline type '" ++ name ++ "' (" ++ toString nested ++ " nested)"
  | suffixTaken name index =>
    "Overload suffix '" ++ name ++ "_" ++ toString index ++
      "' collides with a declared operation name; skipping it"
  | operationRenamed name renamed =>
    "Renamed overloaded operation '" ++ name ++ "' to '" ++ renamed ++ "'"
  | bindingWithoutProtocol name =>
    "Binding '" ++ name ++ "' has no SOAP binding element; defaulting to SOAP 1.1"
  | modelWritten path => "Definition dumped to " ++ path

/-- One line of a log. -/
def line (e : Event) : String :=
  e.severity.label ++ " " ++ e.channel ++ ": " ++ e.message

end Event

/-- A computation together with the events it reports, in order. -/
structure Reported (α : Type) where
  value : α
  events : List Event
  deriving Repr

namespace Reported

instance : Monad Reported where
  pure a := ⟨a, []⟩
  bind x f := ⟨(f x.value).value, x.events ++ (f x.value).events⟩

def report (e : Event) : Reported Unit := ⟨(), [e]⟩

def reportAll (es : List Event) : Reported Unit := ⟨(), es⟩

variable {α β : Type}

@[simp] theorem value_pure (a : α) : (pure a : Reported α).value = a := rfl
@[simp] theorem events_pure (a : α) : (pure a : Reported α).events = [] := rfl
@[simp] theorem value_bind (x : Reported α) (f : α → Reported β) :
    (x >>= f).value = (f x.value).value := rfl
@[simp] theorem events_bind (x : Reported α) (f : α → Reported β) :
    (x >>= f).events = x.events ++ (f x.value).events := rfl
@[simp] theorem value_map (f : α → β) (x : Reported α) : (f <$> x).value = f x.value := rfl

instance : LawfulMonad Reported := LawfulMonad.mk' Reported
  (by intro α x; exact congrArg (mk x.value) (List.append_nil x.events))
  (by intro α β a f; rfl)
  (by intro α β γ x f g; exact congrArg (mk _) (List.append_assoc ..))

/-- Reads every member of a list in turn. -/
def each (f : α → Reported β) : List α → Reported (List β)
  | [] => pure []
  | a :: as => do
    let b ← f a
    let bs ← each f as
    return b :: bs

@[simp] theorem value_each (f : α → Reported β) (as : List α) :
    (each f as).value = as.map fun a => (f a).value := by
  induction as with
  | nil => rfl
  | cons a as ih => simp [each, ih]

end Reported
end ServiceDescription
