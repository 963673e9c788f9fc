import Scaffold.Execution.Change
import Scaffold.Guard
import Scaffold.Log.Store
import Scaffold.Job

/-!
# Attempts

Carrying out one instruction: its guard is judged first, then its fields are looked at, then the
change is made. Every attempt that comes to an end is recorded in the log, with what its guard
found. What becomes of the disk is settled before anything is recorded. A guard on which there is no
verdict leaves the disk and the log as they are.
-/

namespace Scaffold

open Document

/-- How an attempt ended. An attempt is stopped if the disk could not even be asked, and then it is
not recorded. -/
inductive Ending
  | skipped
  | executed (changed : Bool)
  | failed (cause : InstructionCause)
  | stopped (e : DiskError)

/-- An attempt at an instruction: what its guard found, if it has one, and how it ended. -/
structure Attempt where
  guard : Option GroupVerdict
  ending : Ending

/-- The attempt to make the change of an instruction that nothing holds back. -/
def Instruction.tryChange (context : Context) (i : Instruction) (d : Disk) : Ending × Disk :=
  match i.lacking with
  | [] =>
    match i.change.apply (context.resolve i.path) d with
    | (.ok changed, d) => (.executed changed, d)
    | (.error (.refused cause), d) => (.failed cause, d)
    | (.error (.stopped e), d) => (.stopped e, d)
  | fields => (.failed (.lacking fields), d)

/-- The verdict on the guard of an instruction, whose conditions look at the instruction's own file
unless they name another one. -/
def Instruction.judge (context : Context) (i : Instruction) (d : Disk) :
    Except Text.Unwritable (Option GroupVerdict) :=
  match i.condition with
  | none => .ok none
  | some g => (g.judge context (some i.path) d).map some

/-- The attempt at an instruction. -/
def Instruction.attempt (context : Context) (i : Instruction) (d : Disk) :
    Except Text.Unwritable Attempt × Disk :=
  match i.judge context d with
  | .error e => (.error e, d)
  | .ok guard =>
    if guard.all GroupVerdict.passed then
      let (ending, d) := i.tryChange context d
      (.ok ⟨guard, ending⟩, d)
    else (.ok ⟨guard, .skipped⟩, d)

/-- The outcome of an instruction that has not failed. -/
inductive Outcome
  | executed
  | skipped
  deriving DecidableEq, Repr

/-- The word for an outcome. -/
def Outcome.word : Outcome → String
  | .executed => "executed"
  | .skipped => "skipped"

/-- What is reported of an instruction that has not failed. -/
structure Report where
  outcome : Outcome
  changed : Bool
  conditions : List Verdict
  logHash : Option String
  deriving DecidableEq, Repr

/-- A report as a document. -/
def Report.toValue (r : Report) : Value :=
  .record
    [("outcome", .string r.outcome.word), ("changed", .bool r.changed),
      ("condition_results", .list (r.conditions.map Verdict.toValue)),
      ("log_hash", .string? r.logHash)]

/-- The record of an attempt at the given time. -/
def Log.Record.ofAttempt (context : Context) (index : Int) (i : Instruction)
    (guard : Option GroupVerdict) (status : Log.Status) (error : Option String) (time : Int) :
    Schema.Checked Log.Record :=
  Log.Record.create context.project context.module index i.snapshot status error
    (guard.map GroupVerdict.results) time

/-- Records an attempt, if there is a log, and gives the hash of the record. -/
def Log.note (log : Option Log.Store) (context : Context) (index : Int) (i : Instruction)
    (guard : Option GroupVerdict) (status : Log.Status) (error : Option String) :
    Job (Option String) :=
  match log with
  | none => pure none
  | some store => do
    let time ← Job.time
    let r ← Job.ofExcept
      ((Log.Record.ofAttempt context index i guard status error time).orFail Log.Record.recordName
        .value)
    let _ ← Job.onDisk (store.save r)
    pure (some r.hash)

/-- Carries out an instruction and records the attempt. A failure is recorded before it is passed
on. -/
def Instruction.apply (log : Option Log.Store) (context : Context) (index : Int)
    (i : Instruction) : Job Report := do
  let attempt ← Job.onDisk fun d =>
    let (attempt, d) := i.attempt context d
    (attempt.mapError Failure.unwritable, d)
  let note := Log.note log context index i attempt.guard
  let conditions := (attempt.guard.map GroupVerdict.results).getD []
  match attempt.ending with
  | .skipped =>
    let hash ← note .skipped none
    pure ⟨.skipped, false, conditions, hash⟩
  | .executed changed =>
    let hash ← note .success none
    pure ⟨.executed, changed, conditions, hash⟩
  | .failed cause =>
    let failure := Failure.instruction i.action i.path cause
    let _ ← note .failed (some failure.message)
    throw failure
  | .stopped e => throw (.disk e)

end Scaffold
