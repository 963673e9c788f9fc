import Mathlib.Tactic.Lemma
import Scaffold.Job

/-!
# Outcomes of jobs

What each way of making a job does to the site that it runs on. With these equations a job is
followed step by step, and a job that has come to a result is taken apart into the jobs that it is
made of.
-/

namespace Scaffold.Job

variable {α β : Type}

@[simp] lemma outcome_pure (a : α) (s : Site) : (pure a : Job α).outcome s = (.ok a, s) := rfl

@[simp] lemma outcome_onDisk (f : Disk → Except Failure α × Disk) (s : Site) :
    (onDisk f).outcome s = ((f s.disk).1, { s with disk := (f s.disk).2 }) := rfl

@[simp] lemma outcome_time (s : Site) :
    time.outcome s = (.ok s.clock.now, { s with clock := s.clock.read.2 }) := rfl

@[simp] lemma outcome_print (lines : List Console.Printed) (s : Site) :
    (print lines).outcome s = (.ok (), { s with printed := s.printed ++ lines }) := rfl

@[simp] lemma outcome_ofExcept (x : Except Failure α) (s : Site) :
    (ofExcept x).outcome s = (x, s) := rfl

lemma outcome_bind (j : Job α) (f : α → Job β) (s : Site) :
    (j >>= f).outcome s =
      match j.outcome s with
      | (.ok a, s') => (f a).outcome s'
      | (.error e, s') => (.error e, s') := by
  change (match j.outcome s with | (result, s') => (ExceptT.bindCont f result).run s') = _
  rcases j.outcome s with ⟨a | e, s'⟩
  · rfl
  · rfl

lemma outcome_bind_of_ok {j : Job α} {s s' : Site} {a : α} (h : j.outcome s = (.ok a, s'))
    (f : α → Job β) : (j >>= f).outcome s = (f a).outcome s' := by
  rw [outcome_bind, h]

lemma outcome_bind_of_error {j : Job α} {s s' : Site} {e : Failure}
    (h : j.outcome s = (.error e, s')) (f : α → Job β) :
    (j >>= f).outcome s = (.error e, s') := by
  rw [outcome_bind, h]

/-- A sequence of two jobs comes to a result exactly if both come to theirs. -/
lemma outcome_bind_eq_ok {j : Job α} {f : α → Job β} {s s' : Site} {b : β} :
    (j >>= f).outcome s = (.ok b, s') ↔
      ∃ a s₁, j.outcome s = (.ok a, s₁) ∧ (f a).outcome s₁ = (.ok b, s') := by
  constructor
  · intro h
    rw [outcome_bind] at h
    rcases hj : j.outcome s with ⟨result, s₁⟩
    rw [hj] at h
    cases result with
    | ok a => exact ⟨a, s₁, rfl, h⟩
    | error e => cases h
  · rintro ⟨a, s₁, hj, h⟩
    rw [outcome_bind_of_ok hj, h]

lemma outcome_catching_of_ok (isCaught : Failure → Bool) {j : Job α} {s s' : Site} {a : α}
    (h : j.outcome s = (.ok a, s')) : (catching isCaught j).outcome s = (.ok (.ok a), s') := by
  have hj : j s = (.ok a, s') := h
  change catching isCaught j s = _
  simp only [catching, hj]

lemma outcome_catching_of_error (isCaught : Failure → Bool) {j : Job α} {s s' : Site}
    {e : Failure} (h : j.outcome s = (.error e, s')) :
    (catching isCaught j).outcome s =
      if isCaught e then (.ok (.error e), s') else (.error e, s') := by
  have hj : j s = (.error e, s') := h
  change catching isCaught j s = _
  simp only [catching, hj]

end Scaffold.Job
