import Scaffold.Execution.Batch
import Scaffold.Proofs.JobOutcome
import Scaffold.Proofs.RecordSaving
import Scaffold.Proofs.SnapshotDepth

/-!
# What carrying out an instruction comes to

An instruction is carried out in two phases: the attempt, which alone touches the project, and the
record of the attempt, which alone touches the log. The main statement puts the two together: it
gives the result and the site after it from the attempt, the record and what comes of saving it.
-/

namespace Scaffold

/-- The status under which a result goes into the log. -/
def Result.status : Result → Log.Status
  | .ok ⟨.executed, _, _, _⟩ => .success
  | .ok ⟨.skipped, _, _, _⟩ => .skipped
  | .error _ => .failed

namespace Attempt

/-- Whether an attempt was stopped by the disk, so that it is not recorded. -/
def isStopped (a : Attempt) : Bool :=
  match a.ending with
  | .stopped _ => true
  | _ => false

/-- What an attempt comes to, given the hash of its record if there is one. -/
def result (i : Instruction) (a : Attempt) (hash : Option String) : Result :=
  let conditions := (a.guard.map GroupVerdict.results).getD []
  match a.ending with
  | .skipped => .ok ⟨.skipped, false, conditions, hash⟩
  | .executed changed => .ok ⟨.executed, changed, conditions, hash⟩
  | .failed cause => .error (.instruction i.action i.path cause)
  | .stopped e => .error (.disk e)

/-- The record of an attempt at the instruction of an index. -/
def record (context : Context) (index : Nat) (i : Instruction) (a : Attempt) (time : Int) :
    Log.Record where
  hash := Log.hashOf context.project context.module index time
  timestamp := time
  project := context.project
  module := context.module
  index := index
  instruction := i.snapshot
  status := (a.result i none).status
  error := (a.result i none).error?
  conditions := a.guard.map GroupVerdict.results

end Attempt

/-- An attempt has judged the guard, and has got to the change exactly if the guard let it through. -/
lemma attempt_eq_ok {context : Context} {i : Instruction} {d d' : Disk} {a : Attempt}
    (h : i.attempt context d = (.ok a, d')) :
    i.judge context d = .ok a.guard ∧
      (a.guard.all GroupVerdict.passed = false ∧ a.ending = .skipped ∧ d' = d ∨
        a.guard.all GroupVerdict.passed = true ∧ i.tryChange context d = (a.ending, d')) := by
  rw [Instruction.attempt] at h
  split at h
  · cases h
  · next guard hjudge =>
    split at h
    · next hpassed =>
      cases h
      exact ⟨hjudge, .inr ⟨hpassed, rfl⟩⟩
    · next hfailed =>
      cases h
      exact ⟨hjudge, .inl ⟨Bool.eq_false_iff.mpr hfailed, rfl, rfl⟩⟩

lemma guard_of_some {context : Context} {i : Instruction} {d : Disk}
    {guard : Option GroupVerdict} {g : ConditionGroup} (h : i.judge context d = .ok guard)
    (hg : i.condition = some g) :
    ∃ v, guard = some v ∧ g.judge context (some i.path) d = .ok v := by
  rw [Instruction.judge, hg] at h
  obtain ⟨v, hv, rfl⟩ := map_eq_ok_iff.mp h
  exact ⟨v, rfl, hv⟩

section Recording

variable (log : Option Log.Store) (context : Context) (index : Nat) (i : Instruction)

/-- All attempts that come to an end are recorded and reported in one way. -/
lemma apply_eq (index : Int) :
    i.apply log context index = (do
      let a ← Job.onDisk fun d =>
        ((i.attempt context d).1.mapError Failure.unwritable, (i.attempt context d).2)
      if a.isStopped then Job.ofExcept (a.result i none)
      else
        let hash ← Log.note log context index i a.guard (a.result i none).status
          (a.result i none).error?
        Job.ofExcept (a.result i hash)) := by
  unfold Instruction.apply
  congr 1
  funext a
  obtain ⟨guard, ending⟩ := a
  cases ending with
  | skipped => rfl
  | executed changed => rfl
  | failed cause => rfl
  | stopped e => rfl

lemma ofAttempt_eq (guard : Option GroupVerdict) (status : Log.Status) (error : Option String)
    (time : Int) :
    Log.Record.ofAttempt context index i guard status error time =
      .valid
        ⟨Log.hashOf context.project context.module index time, time, context.project,
          context.module, index, i.snapshot, status, error, guard.map GroupVerdict.results⟩ := by
  have hindex : ¬((index : Int) < 0) := by omega
  rw [Log.Record.ofAttempt, Log.Record.create, if_neg hindex, Int.toNat_natCast]

/-- Noting an attempt reads the clock once and saves the record of that time. -/
lemma outcome_note (a : Attempt) (s : Site) :
    (Log.note log context index i a.guard (a.result i none).status
        (a.result i none).error?).outcome s =
      match log with
      | none => (.ok none, s)
      | some store =>
        let r := a.record context index i s.clock.now
        match store.save r s.disk with
        | (.ok _, d) => (.ok (some r.hash), { s with disk := d, clock := s.clock.read.2 })
        | (.error e, d) => (.error e, { s with disk := d, clock := s.clock.read.2 }) := by
  cases log with
  | none => rfl
  | some store =>
    simp only [Log.note, Job.outcome_bind, Job.outcome_time, Job.outcome_ofExcept, ofAttempt_eq,
      Schema.Checked.orFail, Job.outcome_onDisk, Attempt.record]
    rcases store.save _ s.disk with ⟨e | p, d⟩
    · rfl
    · rfl

/-- What carrying out an instruction comes to, with and without a log. -/
theorem outcome_apply (s : Site) :
    (i.apply log context index).outcome s =
      match i.attempt context s.disk with
      | (.error e, d) => (.error (.unwritable e), { s with disk := d })
      | (.ok a, d) =>
        if a.isStopped then (a.result i none, { s with disk := d })
        else
          match log with
          | none => (a.result i none, { s with disk := d })
          | some store =>
            let r := a.record context index i s.clock.now
            match store.save r d with
            | (.ok _, d) =>
              (a.result i (some r.hash), { s with disk := d, clock := s.clock.read.2 })
            | (.error e, d) => (.error e, { s with disk := d, clock := s.clock.read.2 }) := by
  rw [apply_eq, Job.outcome_bind, Job.outcome_onDisk]
  rcases i.attempt context s.disk with ⟨e | a, d⟩
  · rfl
  · simp only [Except.mapError]
    cases a.isStopped with
    | true => rfl
    | false =>
      simp only [Bool.false_eq_true, if_false, Job.outcome_bind, outcome_note]
      cases log with
      | none => rfl
      | some store =>
        simp only
        rcases store.save (a.record context index i s.clock.now) d with ⟨e | p, d'⟩
        · rfl
        · rfl

/-- The log, if there is one, takes the record of whatever the attempt comes to. -/
def Instruction.CanBeNoted (log : Option Log.Store) (context : Context) (index : Int)
    (i : Instruction) (s : Site) : Prop :=
  ∀ a d, i.attempt context s.disk = (.ok a, d) →
    ∃ hash s', (Log.note log context index i a.guard (a.result i none).status
      (a.result i none).error?).outcome { s with disk := d } = (.ok hash, s')

instance (index : Int) (s : Site) : Decidable (i.CanBeNoted log context index s) :=
  decidable_of_iff
    ((match i.attempt context s.disk with
      | (.error _, _) => true
      | (.ok a, d) => ((Log.note log context index i a.guard (a.result i none).status
          (a.result i none).error?).outcome { s with disk := d }).1.isOk) = true) (by
    rw [Instruction.CanBeNoted]
    rcases i.attempt context s.disk with ⟨e | a, d⟩
    · exact iff_of_true rfl (by rintro _ _ ⟨⟩)
    · constructor
      · rintro h _ _ ⟨⟩
        dsimp only at h
        rcases hnote : (Log.note log context index i a.guard (a.result i none).status
          (a.result i none).error?).outcome { s with disk := d } with ⟨e | hash, s'⟩
        · rw [hnote] at h
          cases h
        · exact ⟨hash, s', rfl⟩
      · intro h
        obtain ⟨hash, s', hnote⟩ := h a d rfl
        dsimp only
        rw [hnote]
        rfl)

/-- An instruction whose record is taken comes to what its attempt comes to. -/
lemma exists_outcome_apply_eq {index : Int} {s : Site} {a : Attempt} {d : Disk}
    (hattempt : i.attempt context s.disk = (.ok a, d))
    (hnoted : i.CanBeNoted log context index s) :
    ∃ hash s', (i.apply log context index).outcome s = (a.result i hash, s') := by
  rw [apply_eq, Job.outcome_bind, Job.outcome_onDisk, hattempt]
  simp only [Except.mapError]
  cases a.isStopped with
  | true => exact ⟨none, _, rfl⟩
  | false =>
    obtain ⟨hash, s', hnote⟩ := hnoted a d hattempt
    rw [if_neg Bool.false_ne_true, Job.outcome_bind_of_ok hnote]
    exact ⟨hash, s', rfl⟩

end Recording

end Scaffold
