import Mathlib.Tactic.Lemma
import ServiceDescription.Proofs.Schema.Attempt

/-! What work in place comes to and the catalog that it leaves behind, also after a refusal, which an
attempt does not show. Steps are put together by what each of them ends in, and what an attempt
comes to is read off that. A catalog that is open takes every declaration, and a frozen one none. -/
namespace ServiceDescription.Schema.Catalog

namespace InPlace
variable {α β : Type}

/-- What the work comes to, or the refusal. -/
def result (x : InPlace α) (c : Catalog) : Except Error α := (x.run c).value.1

/-- The catalog afterwards, also after a refusal. -/
def after (x : InPlace α) (c : Catalog) : Catalog := (x.run c).value.2

theorem run_bind (x : InPlace α) (f : α → InPlace β) (c : Catalog) :
    (x >>= f).run c = do
      let p ← x.run c
      match p.1 with
      | .ok a => (f a).run p.2
      | .error e => return (.error e, p.2) := by
  show (x.run c >>= fun p => (ExceptT.bindCont f p.1).run p.2) = _
  congr 1
  funext p
  obtain ⟨_ | a, c'⟩ := p
  · rfl
  · rfl

/-- The work comes to `r` and leaves the catalog `d`. -/
def Ends (x : InPlace α) (c : Catalog) (r : Except Error α) (d : Catalog) : Prop :=
  x.result c = r ∧ x.after c = d

/-- The work comes to this and leaves the catalog as it was. -/
def Leaves (x : InPlace α) (c : Catalog) (r : Except Error α) : Prop := x.Ends c r c

section Steps
variable {c d : Catalog} {x : InPlace α} {f : α → InPlace β}

lemma leaves_pure (c : Catalog) (a : α) : (pure a : InPlace α).Leaves c (.ok a) := ⟨rfl, rfl⟩

lemma leaves_throw (c : Catalog) (e : Error) : (throw e : InPlace α).Leaves c (.error e) := ⟨rfl, rfl⟩

lemma leaves_get (c : Catalog) : (get : InPlace Catalog).Leaves c (.ok c) := ⟨rfl, rfl⟩

lemma leaves_lift (c : Catalog) (r : Reported α) : (liftM r : InPlace α).Leaves c (.ok r.value) :=
  ⟨rfl, rfl⟩

lemma ends_modify (c : Catalog) (f : Catalog → Catalog) :
    (modify f : InPlace Unit).Ends c (.ok ()) (f c) := ⟨rfl, rfl⟩

theorem Ends.bind {a : α} {r : Except Error β} {d' : Catalog} (h : x.Ends c (.ok a) d)
    (hf : (f a).Ends d r d') : (x >>= f).Ends c r d' := by
  obtain ⟨hresult, hafter⟩ := h
  unfold Ends result after at *
  rw [run_bind, Reported.value_bind]
  simp only [hresult, hafter]
  exact hf

theorem Ends.bind_of_error {e : Error} (h : x.Ends c (.error e) d) :
    (x >>= f).Ends c (.error e) d := by
  obtain ⟨hresult, hafter⟩ := h
  unfold Ends result after at *
  rw [run_bind, Reported.value_bind]
  simp only [hresult, hafter, Reported.value_pure, and_self]

theorem Leaves.bind {a : α} {r : Except Error β} (h : x.Leaves c (.ok a)) (hf : (f a).Leaves c r) :
    (x >>= f).Leaves c r := Ends.bind h hf

theorem Leaves.bind_of_error {e : Error} (h : x.Leaves c (.error e)) :
    (x >>= f).Leaves c (.error e) := Ends.bind_of_error h

/-- Where two steps are not refused, neither is one of them. -/
theorem exists_of_result_bind {b : β} (h : (x >>= f).result c = .ok b) :
    ∃ a, x.result c = .ok a ∧ (f a).result (x.after c) = .ok b ∧
      (x >>= f).after c = (f a).after (x.after c) := by
  cases hx : x.result c with
  | error e =>
    have herror := Ends.bind_of_error (f := f) ⟨hx, rfl⟩
    rw [herror.1] at h
    contradiction
  | ok a =>
    obtain ⟨hresult, hafter⟩ := Ends.bind ⟨hx, rfl⟩ (f := f) ⟨rfl, rfl⟩
    exact ⟨a, rfl, hresult.symm.trans h, hafter⟩

end Steps

section Attempted
variable (c : Catalog)

@[simp] theorem attempted_pure (a : α) : (pure a : InPlace α).attempted c = pure (c, a) := rfl

@[simp] theorem attempted_get : (get : InPlace Catalog).attempted c = pure (c, c) := rfl

@[simp] theorem attempted_lift (x : Reported α) :
    (liftM x : InPlace α).attempted c = (c, ·) <$> (liftM x : Attempt α) := rfl

theorem attempted_bind (x : InPlace α) (f : α → InPlace β) :
    (x >>= f).attempted c = x.attempted c >>= fun p => (f p.2).attempted p.1 := by
  unfold attempted
  rw [run_bind]
  obtain ⟨⟨_ | a, c'⟩, es⟩ := x.run c
  · rfl
  · rfl

theorem attempted_map (f : α → β) (x : InPlace α) :
    (f <$> x).attempted c = (fun p => (p.1, f p.2)) <$> x.attempted c := by
  rw [map_eq_pure_bind, attempted_bind, map_eq_pure_bind]
  rfl

theorem attempted_add (d : Declaration) : (add d).attempted c = (·, ()) <$> c.add d := by
  rw [Catalog.add, attempt, Functor.map_map]
  exact (id_map _).symm

variable {c} {d : Catalog}

theorem Ends.outcome {x : InPlace α} {a : α} (h : x.Ends c (.ok a) d) :
    (x.attempted c).outcome = .ok (d, a) := by
  obtain ⟨hresult, hafter⟩ := h
  show (x.result c).map (x.after c, ·) = .ok (d, a)
  rw [hresult, hafter]
  rfl

theorem Ends.outcome_attempt {x : InPlace Unit} (h : x.Ends c (.ok ()) d) :
    (c.attempt x).outcome = .ok d := by
  rw [attempt, map_eq_pure_bind, outcome_bind h.outcome]
  rfl

end Attempted

section Add
variable {c : Catalog}

theorem ends_add (h : c.frozen = false) (d : Declaration) :
    (add d).Ends c (.ok ()) (c.insert d) := by
  refine Ends.bind (leaves_get c) ?_
  rw [h, if_neg Bool.false_ne_true]
  exact Ends.bind (leaves_lift c _) (ends_modify c _)

theorem ends_addAll (h : c.frozen = false) (ds : List (Reported Declaration)) :
    (addAll ds).Ends c (.ok ()) (c.insertAll (ds.map (·.value))) := by
  induction ds generalizing c with
  | nil => exact leaves_pure c ()
  | cons d ds ih =>
    refine Ends.bind (leaves_lift c d) (Ends.bind (ends_add h d.value) ?_)
    exact ih (by rw [frozen_insert, h])

theorem leaves_add (h : c.frozen = true) (d : Declaration) : (add d).Leaves c (.error .frozen) := by
  refine (leaves_get c).bind ?_
  rw [if_pos h]
  exact leaves_throw c .frozen

theorem leaves_addAll (h : c.frozen = true) (ds : List (Reported Declaration)) :
    (addAll ds).Leaves c (if (ds.map (·.value)).isEmpty then .ok () else .error .frozen) := by
  cases ds with
  | nil => exact leaves_pure c ()
  | cons d ds => exact (leaves_lift c d).bind (leaves_add h d.value).bind_of_error

end Add

end InPlace

end ServiceDescription.Schema.Catalog
