import Scaffold.Execution.Attempt

/-!
# Batches

Carrying out the instructions of a module in order. A failure of an instruction, or of its record,
is counted and the batch goes on with the next one.
-/

namespace Scaffold

open Console Document

/-- The tally of a batch. -/
structure Summary where
  executed : Nat
  skipped : Nat
  failed : Nat
  errors : List String
  logHashes : List String
  deriving DecidableEq, Repr

/-- What came of one instruction of a batch. -/
abbrev Result : Type := Except Failure Report

namespace Result

/-- Whether an instruction ended with the given outcome. -/
def isOutcome (o : Outcome) : Result → Bool
  | .ok r => r.outcome = o
  | .error _ => false

/-- The words of a failure. -/
def error? : Result → Option String
  | .ok _ => none
  | .error e => some e.message

/-- The hash of the record of an instruction that has not failed. -/
def logHash? : Result → Option String
  | .ok r => r.logHash
  | .error _ => none

end Result

namespace Summary

/-- The tally of a list of results. -/
def ofResults (results : List Result) : Summary where
  executed := results.countP (Result.isOutcome .executed)
  skipped := results.countP (Result.isOutcome .skipped)
  failed := (results.filterMap Result.error?).length
  errors := results.filterMap Result.error?
  logHashes := results.filterMap Result.logHash?

/-- The tally of nothing. -/
def zero : Summary := ofResults []

/-- A tally as a document. -/
def toValue (s : Summary) : Value :=
  .record
    [("executed", .int s.executed), ("skipped", .int s.skipped), ("failed", .int s.failed),
      ("errors", .list (s.errors.map Value.string)),
      ("log_hashes", .list (s.logHashes.map Value.string))]

end Summary

/-- Whether a failure concerns one instruction only. -/
def Failure.isLocal : Failure → Bool
  | .instruction .. => true
  | .log .. => true
  | _ => false

/-- How an instruction is called in messages: by its number, counted from one. -/
def Instruction.label (index : Nat) (i : Instruction) : String :=
  "#" ++ toString (index + 1) ++ " " ++ i.action.word ++ " " ++ i.path

/-- The mark of a verdict. -/
def Verdict.mark (v : Verdict) : String := if v.passed then styled "green" "+" else styled "red" "x"

/-- The line about a condition. -/
def Verdict.printed (v : Verdict) : Printed :=
  .ofMarkup ("    " ++ v.mark ++ " " ++ escaped v.reason)

/-- What is printed about an instruction of a batch: a failure always, anything else only on
request. -/
def Result.printed (verbose : Bool) (label : String) : Result → List Printed
  | .error e => [.warning ("  " ++ label ++ " failed: " ++ e.message)]
  | .ok r =>
    if verbose then
      .ofMarkup ("  " ++ styled "dim" (escaped label ++ ": " ++ r.outcome.word))
        :: r.conditions.map Verdict.printed
    else []

/-- Carries out instructions in order, the first of which has the given index. -/
def applyFrom (log : Option Log.Store) (context : Context) (index : Nat) :
    List Instruction → Job (List Result)
  | [] => pure []
  | i :: rest => do
    let result ← Job.catching Failure.isLocal (i.apply log context index)
    Job.print (Result.printed context.verbose (i.label index) result)
    let later ← applyFrom log context (index + 1) rest
    pure (result :: later)

/-- Carries out a batch and tallies it. -/
def applyAll (log : Option Log.Store) (context : Context) (instructions : List Instruction) :
    Job Summary := do
  let results ← applyFrom log context 0 instructions
  pure (.ofResults results)

end Scaffold
