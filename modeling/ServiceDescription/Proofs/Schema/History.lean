import Mathlib.Data.List.Induction
import ServiceDescription.Proofs.Schema.InPlace
import ServiceDescription.Proofs.Schema.Precedence

/-! Catalogs that are filled by hand. Whatever is added and in whatever order, the catalog is decided
by the calls before the first freeze: it keeps the first type of each name, every element and every
schema, and the set of imported namespaces. What is added after a freeze is refused and changes
nothing. The invariant relates a catalog to the whole history of calls; one call keeps it, and so does
every sequence of calls. -/
namespace ServiceDescription.Schema

namespace Declaration

def schema? : Declaration → Option String
  | schema label => some label
  | _ => none

def importedNamespace? : Declaration → Option String
  | importedNamespace uri => some uri
  | _ => none

def simpleType? : Declaration → Option SimpleType
  | simpleType t => some t
  | _ => none

end Declaration

section Firsts
variable {α : Type} (key : α → String)

lemma firsts_append_singleton (taken : List String) (as : List α) (a : α) :
    firsts key taken (as ++ [a]) =
      if key a ∈ taken ++ as.map key then firsts key taken as else firsts key taken as ++ [a] := by
  induction as generalizing taken with
  | nil => simp [firsts]
  | cons b as ih =>
    rw [List.cons_append, firsts, firsts, ih, ih]
    by_cases hb : key b ∈ taken
    · have hiff : key a ∈ taken ++ (b :: as).map key ↔ key a ∈ taken ++ as.map key := by
        simp only [List.map_cons, List.mem_append, List.mem_cons]
        constructor
        · rintro (h | h | h)
          · exact .inl h
          · exact .inl (h ▸ hb)
          · exact .inr h
        · rintro (h | h)
          · exact .inl h
          · exact .inr (.inr h)
      simp only [hb, if_true, hiff]
    · have hassoc : taken ++ [key b] ++ as.map key = taken ++ (b :: as).map key := by simp
      rw [if_neg hb, if_neg hb, hassoc]
      split <;> rfl

/-- One more member is kept just if its key is new. -/
lemma firsts_snoc (as : List α) (a : α) :
    firsts key [] (as ++ [a]) =
      if key a ∈ (firsts key [] as).map key then firsts key [] as else firsts key [] as ++ [a] := by
  have hiff : key a ∈ (firsts key [] as).map key ↔ key a ∈ [] ++ as.map key := by
    rw [keys_firsts, List.mem_eraseDups]
    simp
  rw [firsts_append_singleton]
  simp only [hiff]

end Firsts

namespace Catalog

/-- The catalog is what declarations leave behind that are put in one by one, in this order. -/
structure FilledWith (ds : List Declaration) (c : Catalog) : Prop where
  complexTypes : c.complexTypes = firsts (·.name) [] (ds.filterMap Declaration.complexType?)
  simpleTypes : c.simpleTypes = firsts (·.name) [] (ds.filterMap Declaration.simpleType?)
  elements : c.elements = ds.filterMap Declaration.element?
  importedNamespaces :
    c.importedNamespaces = firsts id [] (ds.filterMap Declaration.importedNamespace?)
  schemas : c.schemas = ds.filterMap Declaration.schema?

variable {ds : List Declaration} {c : Catalog}

lemma insert_complexType_eq (c : Catalog) (t : ComplexType) :
    c.insert (.complexType t) =
      { c with
        complexTypes := if t.name ∈ c.complexTypes.map (·.name) then c.complexTypes
          else c.complexTypes ++ [t] } := by
  have hiff : c.hasComplexType t.name = true ↔ t.name ∈ c.complexTypes.map (·.name) :=
    hasComplexType_iff
  unfold insert
  simp only [hiff]
  split <;> rfl

lemma insert_simpleType_eq (c : Catalog) (t : SimpleType) :
    c.insert (.simpleType t) =
      { c with
        simpleTypes := if t.name ∈ c.simpleTypes.map (·.name) then c.simpleTypes
          else c.simpleTypes ++ [t] } := by
  have hiff : c.hasSimpleType t.name = true ↔ t.name ∈ c.simpleTypes.map (·.name) := by
    simp [hasSimpleType]
  unfold insert
  simp only [hiff]
  split <;> rfl

lemma insert_importedNamespace_eq (c : Catalog) (uri : String) :
    c.insert (.importedNamespace uri) =
      { c with
        importedNamespaces := if uri ∈ c.importedNamespaces.map id then c.importedNamespaces
          else c.importedNamespaces ++ [uri] } := by
  unfold insert
  simp only [List.map_id, List.contains_iff_mem]
  split <;> rfl

theorem filledWith_empty : FilledWith [] empty := ⟨rfl, rfl, rfl, rfl, rfl⟩

/-- One more declaration, put in after the others. -/
theorem FilledWith.insert (h : FilledWith ds c) (d : Declaration) : FilledWith (ds ++ [d]) (c.insert d) := by
  obtain ⟨hcomplex, hsimple, helements, himported, hschemas⟩ := h
  have himports : ∀ uri : String,
      firsts id [] (ds.filterMap Declaration.importedNamespace? ++ [uri]) =
        if uri ∈ (firsts id [] (ds.filterMap Declaration.importedNamespace?)).map id then _ else _ :=
    firsts_snoc id (ds.filterMap Declaration.importedNamespace?)
  -- only the lists that look for a key need an argument, all others grow at the end or stay
  cases d
  case' schema label => rw [Catalog.insert]
  case' element e => rw [Catalog.insert]
  case' complexType t => rw [insert_complexType_eq, hcomplex, ← firsts_snoc]
  case' simpleType t => rw [insert_simpleType_eq, hsimple, ← firsts_snoc]
  case' importedNamespace uri => rw [insert_importedNamespace_eq, himported, ← himports]
  all_goals
    constructor <;> simp [Declaration.complexType?, Declaration.simpleType?, Declaration.element?,
      Declaration.importedNamespace?, Declaration.schema?, List.filterMap_cons, *]

theorem FilledWith.insertAll (h : FilledWith ds c) (es : List Declaration) :
    FilledWith (ds ++ es) (c.insertAll es) := by
  induction es generalizing ds c with
  | nil => simpa using h
  | cons d es ih =>
    have hrest := ih (h.insert d)
    rwa [List.append_assoc] at hrest

/-- What a catalog shows that keeps the first type of each name: the names in the order in which they
were first added, under each name the first type added, whether or not a later one has the namespace
that is asked for, and all the rest. -/
structure FirstWins (ds : List Declaration) (c : Catalog) : Prop where
  complexTypeNames :
    c.complexTypes.map (·.name) = ((ds.filterMap Declaration.complexType?).map (·.name)).eraseDups
  simpleTypeNames :
    c.simpleTypes.map (·.name) = ((ds.filterMap Declaration.simpleType?).map (·.name)).eraseDups
  complexType? (name : String) (space : Option String) :
    c.complexType? name space =
      match (ds.filterMap Declaration.complexType?).find? (·.name = name) with
      | some t => if space = none ∨ space = some t.space then some t else none
      | none => none
  simpleType? (name : String) (space : Option String) :
    c.simpleType? name space =
      match (ds.filterMap Declaration.simpleType?).find? (·.name = name) with
      | some t => if space = none ∨ space = some t.space then some t else none
      | none => none
  elements : c.elements = ds.filterMap Declaration.element?
  schemas : c.schemas = ds.filterMap Declaration.schema?
  nodup_importedNamespaces : c.importedNamespaces.Nodup
  importedNamespaces (uri : String) :
    uri ∈ c.importedNamespaces ↔ Declaration.importedNamespace uri ∈ ds

lemma all_eq_iff {space : Option String} {uri : String} :
    (space.all (uri = ·)) = true ↔ space = none ∨ space = some uri := by
  cases space <;> simp [eq_comm]

lemma mem_importedNamespaces {uri : String} :
    uri ∈ ds.filterMap Declaration.importedNamespace? ↔ Declaration.importedNamespace uri ∈ ds := by
  rw [List.mem_filterMap]
  constructor
  · rintro ⟨d, hd, huri⟩
    cases d <;> simp_all [Declaration.importedNamespace?]
  · intro h
    exact ⟨_, h, rfl⟩

theorem FilledWith.firstWins (h : FilledWith ds c) : FirstWins ds c where
  complexTypeNames := by
    rw [h.complexTypes, keys_firsts]
    simp
  simpleTypeNames := by
    rw [h.simpleTypes, keys_firsts]
    simp
  complexType? name space := by
    rw [Catalog.complexType?, h.complexTypes, find?_firsts _ List.not_mem_nil]
    cases (ds.filterMap Declaration.complexType?).find? (·.name = name) with
    | none => rfl
    | some t => simp only [Option.filter_some, all_eq_iff]
  simpleType? name space := by
    rw [Catalog.simpleType?, h.simpleTypes, find?_firsts _ List.not_mem_nil]
    cases (ds.filterMap Declaration.simpleType?).find? (·.name = name) with
    | none => rfl
    | some t => simp only [Option.filter_some, all_eq_iff]
  elements := h.elements
  schemas := h.schemas
  nodup_importedNamespaces := by
    have hnodup := nodup_firsts id [] (ds.filterMap Declaration.importedNamespace?)
    rwa [List.map_id, ← h.importedNamespaces] at hnodup
  importedNamespaces uri := by
    have hkeys := keys_firsts id [] (ds.filterMap Declaration.importedNamespace?)
    rw [List.map_id, ← h.importedNamespaces] at hkeys
    rw [hkeys, List.mem_eraseDups]
    simpa using mem_importedNamespaces

/-- One call of a method that changes a catalog. -/
inductive Call where
  | add (d : Declaration)
  | freeze
  deriving DecidableEq

/-- What adding a declaration answers: for a type whether it is kept, for anything else nothing. -/
def reply (c : Catalog) : Declaration → Option Bool
  | .complexType t => some (c.keeps (.complexType t))
  | .simpleType t => some (c.keeps (.simpleType t))
  | _ => none

namespace Call

def perform : Call → InPlace (Option Bool)
  | add d => do
    let c ← get
    InPlace.add d
    return c.reply d
  | freeze => do
    modify Catalog.freeze
    return none

/-- The catalog after a sequence of calls. A call that is refused does not end the sequence. -/
def final (calls : List Call) : Catalog :=
  calls.foldl (fun c call => call.perform.after c) empty

def declaration? : Call → Option Declaration
  | add d => some d
  | freeze => none

/-- The declarations that are added before the first freeze. -/
def declared (calls : List Call) : List Declaration :=
  (calls.takeWhile (· ≠ freeze)).filterMap declaration?

lemma final_append_singleton (calls : List Call) (call : Call) :
    final (calls ++ [call]) = call.perform.after (final calls) := by
  simp [final]

@[simp] lemma declared_add (d : Declaration) (calls : List Call) :
    declared (add d :: calls) = d :: declared calls := rfl

@[simp] lemma declared_freeze (calls : List Call) : declared (freeze :: calls) = [] := rfl

lemma declared_append_singleton (calls : List Call) (call : Call) :
    declared (calls ++ [call]) =
      if freeze ∈ calls then declared calls else declared calls ++ call.declaration?.toList := by
  induction calls with
  | nil => cases call <;> rfl
  | cons first calls ih =>
    cases first with
    | freeze => simp
    | add d =>
      rw [List.cons_append, declared_add, ih, declared_add]
      by_cases h : freeze ∈ calls <;> simp [h]

/-- The catalog after a sequence of calls, against the calls. -/
structure Records (calls : List Call) (c : Catalog) : Prop where
  frozen : c.frozen = true ↔ freeze ∈ calls
  filled : FilledWith (declared calls) c

theorem records_start : Records [] Catalog.empty := ⟨by simp [Catalog.empty], filledWith_empty⟩

section Perform
variable {c : Catalog} (d : Declaration)

lemma perform_add_of_frozen (h : c.frozen = true) :
    (add d).perform.Leaves c (.error .frozen) :=
  (InPlace.leaves_get c).bind (InPlace.leaves_add h d).bind_of_error

lemma perform_add_of_open (h : c.frozen = false) :
    (add d).perform.Ends c (.ok (c.reply d)) (c.insert d) := by
  refine InPlace.Ends.bind (InPlace.leaves_get c) ?_
  exact InPlace.Ends.bind (InPlace.ends_add h d) (InPlace.leaves_pure _ _)

end Perform

/-- One call keeps the catalog in step with the calls. -/
theorem Records.step {calls : List Call} {c : Catalog} (h : Records calls c) (call : Call) :
    Records (calls ++ [call]) (call.perform.after c) := by
  obtain ⟨hfrozen, hfilled⟩ := h
  cases call with
  | freeze =>
    have hafter : freeze.perform.after c = c.freeze := rfl
    have hdeclared : declared (calls ++ [freeze]) = declared calls := by
      simp [declared_append_singleton, declaration?]
    rw [hafter]
    constructor
    · simp [Catalog.freeze]
    · rw [hdeclared]
      exact ⟨hfilled.1, hfilled.2, hfilled.3, hfilled.4, hfilled.5⟩
  | add d =>
    by_cases hf : freeze ∈ calls
    · have hafter := (perform_add_of_frozen d (hfrozen.mpr hf)).2
      rw [hafter]
      constructor
      · simpa [hf] using hfrozen
      · simpa [declared_append_singleton, hf] using hfilled
    · have hopen : c.frozen = false := Bool.eq_false_iff.mpr (hf ∘ hfrozen.mp)
      have hafter := (perform_add_of_open d hopen).2
      rw [hafter]
      constructor
      · simp [hf, hopen]
      · rw [declared_append_singleton, if_neg hf]
        exact hfilled.insert d

/-- The invariant of a whole sequence of calls. -/
theorem records_final (calls : List Call) : Records calls (final calls) := by
  induction calls using List.reverseRecOn with
  | nil => exact records_start
  | append_singleton calls call ih =>
    rw [final_append_singleton]
    exact ih.step call

/-- What adding a declaration answers after others: for a type whether none of its name is among
them. -/
def answer (ds : List Declaration) : Declaration → Option Bool
  | .complexType t => some (t.name ∉ (ds.filterMap Declaration.complexType?).map (·.name))
  | .simpleType t => some (t.name ∉ (ds.filterMap Declaration.simpleType?).map (·.name))
  | _ => none

lemma reply_eq_answer {ds : List Declaration} {c : Catalog} (h : FilledWith ds c) (d : Declaration) :
    c.reply d = answer ds d := by
  have hwins := h.firstWins
  cases d with
  | complexType t =>
    have hiff : c.hasComplexType t.name = true ↔
        t.name ∈ (ds.filterMap Declaration.complexType?).map (·.name) := by
      rw [hasComplexType_iff, typeNames, hwins.complexTypeNames, List.mem_eraseDups]
    rw [reply, answer, keeps]
    simp [← hiff]
  | simpleType t =>
    have hiff : c.hasSimpleType t.name = true ↔
        t.name ∈ (ds.filterMap Declaration.simpleType?).map (·.name) := by
      rw [← List.mem_eraseDups, ← hwins.simpleTypeNames]
      simp [hasSimpleType]
    rw [reply, answer, keeps]
    simp [← hiff]
  | schema label => rfl
  | importedNamespace uri => rfl
  | element e => rfl

/-- A catalog is a store in which the first type of a name wins and which freezing closes. After any
sequence of calls it shows what the calls before the first freeze have added, and one more addition
is refused and changes nothing if there was a freeze, and is answered by whether its name is new
otherwise. -/
theorem final_firstWins (calls : List Call) :
    FirstWins (declared calls) (final calls) ∧
    ((final calls).frozen = true ↔ freeze ∈ calls) ∧
    ∀ d, if freeze ∈ calls then
        (add d).perform.result (final calls) = .error .frozen ∧
          (add d).perform.after (final calls) = final calls
      else (add d).perform.result (final calls) = .ok (answer (declared calls) d) := by
  obtain ⟨hfrozen, hfilled⟩ := records_final calls
  refine ⟨hfilled.firstWins, hfrozen, ?_⟩
  intro d
  split
  · rename_i hf
    exact perform_add_of_frozen d (hfrozen.mpr hf)
  · rename_i hf
    have hopen : (final calls).frozen = false := Bool.eq_false_iff.mpr (hf ∘ hfrozen.mp)
    rw [(perform_add_of_open d hopen).1, reply_eq_answer hfilled]

/-- A type of a taken name is dropped even when only it has the namespace that is asked for. -/
example :
    (final [add (.complexType { name := "T", space := "urn:a" }),
      add (.complexType { name := "T", space := "urn:b" }), freeze]).complexType? "T" "urn:b" =
        none := by
  decide +kernel

end Call

end Catalog
end ServiceDescription.Schema
