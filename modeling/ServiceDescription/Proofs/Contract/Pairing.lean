import ServiceDescription.Contract.Binding
import ServiceDescription.Proofs.Overload.Side
import ServiceDescription.Proofs.Xml.Plain

/-! Operations of interfaces and of bindings, paired by name. Where both sides declare the same
names, the pairs are those of operations with the same declared name and the same place among the
operations of this name. A binding that leaves a declared name out may make this name up for an
overload of another one; there, and only there, the pair is a wrong one. -/
namespace ServiceDescription.Contract
open Xml

/-- The nodes under which a node declares operations of a name. -/
def operationNodes (l : Located) (name : String) : List Located :=
  (l.childrenNamed "operation" none).filter (·.attr "name" = name)

def Interface.declaredAs (i : Interface) (name : String) : List Operation :=
  i.operations.filter (·.declaredName = name)

def Binding.declaredAs (b : Binding) (name : String) : List BoundOperation :=
  b.operations.filter (·.declaredName = name)

/-- Interfaces and bindings name their operations by one rule. -/
def interfaceSide (space : String) : Overload.Side Located Operation where
  key := (·.attr "name")
  make node name := Operation.ofNode node (some name) space
  name := Operation.name
  declaredName := Operation.declaredName

def bindingSide (space : String) : Overload.Side Located BoundOperation where
  key := (·.attr "name")
  make node name := BoundOperation.ofNode node (some name) space
  name := BoundOperation.name
  declaredName := BoundOperation.declaredName

/-- A binding that declares the names of an interface is paired with it exactly: the partner of the
operation declared as `name` after `m` others is made from the node of the binding that declares
`name` after `m` others, and is missing only with this node. On both sides every operation is found
under its own name. -/
theorem operation?_pairs (l b : Located) (space space' : String)
    (h : ∀ name, name ∈ declaredOperations l ↔ name ∈ declaredOperations b) :
    (∀ (name : String) (m : ℕ) (o : Operation),
      ((Interface.ofNode l space).declaredAs name)[m]? = some o →
        (Binding.ofNode b space').operation? o.name =
            ((Binding.ofNode b space').declaredAs name)[m]? ∧
          ((Binding.ofNode b space').declaredAs name)[m]? =
            (operationNodes b name)[m]?.map (BoundOperation.ofNode · (some o.name) space')) ∧
    (∀ o ∈ (Interface.ofNode l space).operations,
      (Interface.ofNode l space).operation? o.name = some o) ∧
    (∀ x ∈ (Binding.ofNode b space').operations,
      (Binding.ofNode b space').operation? x.name = some x) := by
  refine ⟨fun name m o ho => ⟨?_, ?_⟩, fun o ho => ?_, fun x hx => ?_⟩
  · exact (interfaceSide space).lookup_partner (bindingSide space') h ho
  · have hname : o.name = Overload.occurrenceName (declaredOperations l) name m :=
      (interfaceSide space).name_of_getElem? ho
    rw [hname, Overload.occurrenceName_congr h]
    exact (bindingSide space').getElem?_declaredAs (b.childrenNamed "operation" none) name m
  · exact (interfaceSide space).lookup_name ho
  · exact (bindingSide space').lookup_name hx

/-- A port type and a binding that declare the same names in another order and not as often. -/
def calculatorPort : Located := .root <| .plain "portType" [("name", "Calculator")] [
  .plain "operation" [("name", "Add")] [],
  .plain "operation" [("name", "Add")] [],
  .plain "operation" [("name", "Add_1")] [],
  .plain "operation" [("name", "Add")] []]

def calculatorBinding : Located := .root <| .plain "binding" [("type", "Calculator")] [
  .plain "operation" [("name", "Add_1")] [],
  .plain "operation" [("name", "Add")] [],
  .plain "operation" [("name", "Add")] []]

lemma declaredOperations_calculatorPort :
    declaredOperations calculatorPort = ["Add", "Add", "Add_1", "Add"] := by decide +kernel

theorem operation?_pairs_calculator :
    (∀ name, name ∈ declaredOperations calculatorPort ↔
      name ∈ declaredOperations calculatorBinding) ∧
    ((Binding.ofNode calculatorBinding "").operation? "Add_2").map (·.declaredName) = some "Add" ∧
    (Binding.ofNode calculatorBinding "").operation? "Add_3" = none := by
  have hbinding : declaredOperations calculatorBinding = ["Add_1", "Add", "Add"] := by
    decide +kernel
  have hsame : ∀ name, name ∈ declaredOperations calculatorPort ↔
      name ∈ declaredOperations calculatorBinding := by
    intro name
    rw [declaredOperations_calculatorPort, hbinding]
    simp only [List.mem_cons, List.not_mem_nil]
    tauto
  have hpairs := (operation?_pairs calculatorPort calculatorBinding "" "" hsame).1 "Add"
  refine ⟨hsame, ?_, ?_⟩
  · obtain ⟨hlookup, -⟩ := hpairs 1 { name := "Add_2", declaredName := "Add" } (by decide +kernel)
    rw [hlookup]
    decide +kernel
  · obtain ⟨hlookup, -⟩ := hpairs 2 { name := "Add_3", declaredName := "Add" } (by decide +kernel)
    rw [hlookup]
    decide +kernel

/-- Where the binding declares no name that the interface does not have, an operation of the
interface is paired with one that is declared otherwise just when it has kept its name, the binding
does not declare this name, and the binding has made it up for an overload. -/
theorem operation?_wrong_iff (l b : Located) (space space' : String)
    (h : declaredOperations b ⊆ declaredOperations l) :
    ∀ o ∈ (Interface.ofNode l space).operations,
      (∃ x : BoundOperation, (Binding.ofNode b space').operation? o.name = some x ∧
          x.declaredName ≠ o.declaredName) ↔
        o.name = o.declaredName ∧ o.declaredName ∉ declaredOperations b ∧
          o.declaredName ∈ Overload.disambiguate (declaredOperations b) :=
  fun _ ho => (interfaceSide space).exists_wrong_partner_iff (bindingSide space') h ho

/-- A binding that leaves out the operation `Add_1`, whose name it makes up for its second `Add`. -/
def partialBinding : Located := .root <| .plain "binding" [("type", "Calculator")] [
  .plain "operation" [("name", "Add")] [],
  .plain "operation" [("name", "Add")] []]

/-- The operation `Add_1` is paired with an overload of `Add`. -/
theorem partialBinding_mispairs :
    (declaredOperations partialBinding).Sublist (declaredOperations calculatorPort) ∧
      ∃ o ∈ (Interface.ofNode calculatorPort "").operations, o.declaredName = "Add_1" ∧
        ∃ x : BoundOperation, (Binding.ofNode partialBinding "").operation? o.name = some x ∧
          x.declaredName = "Add" :=
  ⟨by decide +kernel, { name := "Add_1", declaredName := "Add_1" }, by decide +kernel, rfl,
    { name := "Add_1", declaredName := "Add" }, by decide +kernel, rfl⟩

theorem operation?_wrong_iff_partialBinding :
    declaredOperations partialBinding ⊆ declaredOperations calculatorPort ∧
      (∃ x : BoundOperation, (Binding.ofNode partialBinding "").operation? "Add_1" = some x ∧
        x.declaredName ≠ "Add_1") ∧
      ¬∃ x : BoundOperation, (Binding.ofNode partialBinding "").operation? "Add" = some x ∧
        x.declaredName ≠ "Add" := by
  have hsubset : declaredOperations partialBinding ⊆ declaredOperations calculatorPort := by
    decide +kernel
  have hwrong := operation?_wrong_iff calculatorPort partialBinding "" "" hsubset
  refine ⟨hsubset, ?_, ?_⟩
  · exact (hwrong { name := "Add_1", declaredName := "Add_1" } (by decide +kernel)).mpr
      (by decide +kernel)
  · rw [hwrong { name := "Add", declaredName := "Add" } (by decide +kernel)]
    decide +kernel

end ServiceDescription.Contract
