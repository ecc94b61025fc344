import ServiceDescription.Schema.Catalog

/-! What an attempt on a catalog comes to, events aside, and the catalog into which a whole list of
declarations has been put. -/
namespace ServiceDescription.Schema.Catalog

/-- The result of an attempt, or the refusal. -/
def Attempt.outcome {α : Type} (x : Attempt α) : Except Error α := x.run.value

section Outcome
variable {α β : Type}

@[simp] theorem outcome_pure (a : α) : (pure a : Attempt α).outcome = .ok a := rfl

@[simp] theorem outcome_report (e : Event) :
    Attempt.outcome (liftM (Reported.report e)) = .ok () := rfl

@[simp] theorem outcome_lift (x : Reported α) :
    Attempt.outcome (liftM x) = .ok x.value := rfl

theorem outcome_bind {x : Attempt α} {a : α} (h : x.outcome = .ok a) (f : α → Attempt β) :
    Attempt.outcome (x >>= f) = (f a).outcome := by
  have hx : x.run.value = .ok a := h
  show (ExceptT.bindCont f x.run.value : Reported (Except Error β)).value = (f a).run.value
  rw [hx]
  rfl

end Outcome

/-- All of a list of declarations put in, in order. -/
def insertAll (c : Catalog) (ds : List Declaration) : Catalog := ds.foldl insert c

@[simp] theorem insertAll_nil (c : Catalog) : c.insertAll [] = c := rfl
@[simp] theorem insertAll_cons (c : Catalog) (d : Declaration) (ds : List Declaration) :
    c.insertAll (d :: ds) = (c.insert d).insertAll ds := rfl
theorem insertAll_append (c : Catalog) (ds es : List Declaration) :
    c.insertAll (ds ++ es) = (c.insertAll ds).insertAll es := List.foldl_append

@[simp] theorem frozen_insertAll (c : Catalog) (ds : List Declaration) :
    (c.insertAll ds).frozen = c.frozen := by
  induction ds generalizing c with
  | nil => rfl
  | cons d ds ih => rw [insertAll_cons, ih, frozen_insert]

end ServiceDescription.Schema.Catalog
