import Scaffold.Proofs.BatchRun
import Scaffold.Proofs.GuardVerdicts

/-!
# The records of a batch

A batch that comes to an end with a log that can be written leaves one record for each of its
instructions, and its summary is the tally of these records.
-/

namespace Scaffold

/-! ### The tally -/

/-- What the summary of a batch has to say about the records of its instructions. -/
structure Summary.Tallies (summary : Summary) (records : List Log.Record) : Prop where
  executed : summary.executed = records.countP (·.status = .success)
  skipped : summary.skipped = records.countP (·.status = .skipped)
  failed : summary.failed = records.countP (·.status = .failed)
  total : summary.executed + summary.skipped + summary.failed = records.length
  errors : summary.errors.map some =
    (records.filter (·.status = .failed)).map Log.Record.error
  logHashes : summary.logHashes = (records.filter (·.status ≠ .failed)).map Log.Record.hash

/-- A record agrees with a result on how the instruction ended, and the result has the hash of the
record unless the instruction failed. -/
structure Result.IsRecordedAs (result : Result) (record : Log.Record) : Prop where
  status : record.status = result.status
  error : record.error = result.error?
  hash : result.logHash? = if record.status = .failed then none else some record.hash

lemma Result.isSome_error?_iff {result : Result} :
    result.error?.isSome = true ↔ result.status = .failed := by
  rcases result with e | ⟨outcome, changed, conditions, hash⟩
  · exact iff_of_true rfl rfl
  · cases outcome with
    | executed => simp [Result.error?, Result.status]
    | skipped => simp [Result.error?, Result.status]

/-- The tally of results is the tally of the records that agree with them. -/
theorem Summary.tallies_ofResults {results : List Result} {records : List Log.Record}
    (h : List.Forall₂ Result.IsRecordedAs results records) :
    (Summary.ofResults results).Tallies records := by
  induction h with
  | nil => exact ⟨rfl, rfl, rfl, rfl, rfl, rfl⟩
  | @cons result record results records hrecord hrest ih =>
    obtain ⟨hstatus, herror, hhash⟩ := hrecord
    rw [Summary.ofResults_cons, ← hstatus, ← herror, hhash]
    -- The messages are those of the failed records only because no other record has one.
    have hsome : record.error.isSome = true ↔ record.status = .failed := by
      rw [hstatus, herror, Result.isSome_error?_iff]
    refine ⟨?_, ?_, ?_, ?_, ?_, ?_⟩
    · simp [List.countP_cons, ih.executed]
    · simp [List.countP_cons, ih.skipped]
    · simp [List.countP_cons, ih.failed]
    · have htotal := ih.total
      cases record.status <;> simp <;> omega
    · by_cases hfailed : record.status = .failed
      · obtain ⟨message, hmessage⟩ := Option.isSome_iff_exists.mp (hsome.mpr hfailed)
        simp [hfailed, hmessage, ih.errors]
      · have hnone : record.error = none := by simpa using mt hsome.mp hfailed
        simp [hfailed, hnone, ih.errors]
    · by_cases hfailed : record.status = .failed
      · simp [hfailed, ih.logHashes]
      · simp [hfailed, ih.logHashes]

/-! ### The record of one instruction -/

/-- The record of an instruction that was carried out on one site and left another one: it is saved
last, and it says which instruction this was, how it ended and what its guard found. -/
structure Log.Record.IsOf (store : Log.Store) (context : Context) (index : Nat) (i : Instruction)
    (before after : Site) (result : Result) (record : Log.Record) : Prop
    extends Result.IsRecordedAs result record where
  saved : ∃ p, store.save record (i.attempt context before.disk).2 = (.ok p, after.disk)
  index : record.index = index
  project : record.project = context.project
  module : record.module = context.module
  instruction : record.instruction = i.snapshot
  isSome_error_iff : record.error.isSome = true ↔ record.status = .failed
  conditions_of_none : i.condition = none → record.conditions = none
  conditions_of_some : ∀ g, i.condition = some g →
    ∃ verdicts, record.conditions = some verdicts ∧
      List.Forall₂ (fun c v => c.judge context (some i.path) before.disk = .ok v) g.conditions
        verdicts

/-- Whether an instruction failed because its record could not be written. -/
def Result.isUnlogged : Result → Bool
  | .error (.log ..) => true
  | _ => false

section Instruction

variable {context : Context} {index : Nat} {i : Instruction} {a : Attempt} {d : Disk}

lemma Attempt.status_result (hash : Option String) :
    (a.result i hash).status = (a.result i none).status := by
  obtain ⟨guard, ending⟩ := a
  cases ending <;> rfl

lemma Attempt.error?_result (hash : Option String) :
    (a.result i hash).error? = (a.result i none).error? := by
  obtain ⟨guard, ending⟩ := a
  cases ending <;> rfl

lemma Attempt.logHash?_result (hash : Option String) :
    (a.result i hash).logHash? = if (a.result i none).status = .failed then none else hash := by
  obtain ⟨guard, ending⟩ := a
  cases ending <;> rfl

lemma guard_of_none {guard : Option GroupVerdict} (h : i.judge context d = .ok guard)
    (hnone : i.condition = none) : guard = none := by
  rw [Instruction.judge, hnone] at h
  exact (Except.ok.inj h).symm

/-- An instruction that a batch goes on after, and whose failure if any is not the log's, is recorded
once, after everything else that it does. -/
theorem Log.Record.exists_isOf {store : Log.Store} {s s' : Site} {result : Result}
    (h : (i.apply (some store) context index).outcome s = (result, s'))
    (hsettled : result.isSettled = true)
    (hlog : result.isUnlogged = false) :
    ∃ record : Log.Record, record.IsOf store context index i s s' result := by
  obtain ⟨a, d, hattempt, -, hsave, ⟨p, hsaved, rfl⟩ | ⟨fault, -, rfl⟩⟩ :=
    apply_of_isSettled h hsettled
  · obtain ⟨hjudge, -⟩ := attempt_eq_ok hattempt
    have hrecord : store.save (a.record context index i s.clock.now)
        (i.attempt context s.disk).2 = (.ok p, s'.disk) := by
      rw [hattempt]
      exact Prod.ext hsaved hsave
    refine ⟨a.record context index i s.clock.now, ⟨?_, ?_, ?_⟩, ⟨p, hrecord⟩, rfl, rfl, rfl, rfl,
      ?_, ?_, ?_⟩
    · exact (Attempt.status_result _).symm
    · exact (Attempt.error?_result _).symm
    · exact Attempt.logHash?_result _
    · exact Result.isSome_error?_iff
    · intro hnone
      rw [Attempt.record, guard_of_none hjudge hnone, Option.map_none]
    · intro g hg
      obtain ⟨v, hguard, hv⟩ := guard_of_some hjudge hg
      refine ⟨v.results, ?_, (ConditionGroup.judge_eq_ok_iff _ _ _).mp hv |>.1⟩
      rw [Attempt.record, hguard, Option.map_some]
  · cases hlog

end Instruction

/-! ### The records of a run -/

namespace Batch

/-- No instruction of a batch fails for the log: what it writes to its log is written. -/
def LogWritable (store : Log.Store) (context : Context) (is : List Instruction) (s : Site) : Prop :=
  ∀ k (hk : k < is.length), (resultAt (some store) context is s k is[k]).isUnlogged = false

instance (store : Log.Store) (context : Context) (is : List Instruction) (s : Site) :
    Decidable (LogWritable store context is s) :=
  inferInstanceAs (Decidable (∀ k (_ : k < is.length), _ = false))

/-- A batch that comes to an end with a log that can be written records each of its instructions
once, in order, and its summary is the tally of these records. -/
theorem applyAll_records {store : Log.Store} {context : Context} {is : List Instruction} {s : Site}
    {summary : Summary} (hlog : LogWritable store context is s)
    (h : ((applyAll (some store) context is).outcome s).1 = .ok summary) :
    ∃ records : List Log.Record, ∃ _ : records.length = is.length,
      (∀ k (hk : k < is.length),
        records[k].IsOf store context k is[k] (siteAt (some store) context is s k)
          (siteAt (some store) context is s (k + 1)) (resultAt (some store) context is s k is[k])) ∧
      ((applyAll (some store) context is).outcome s).2 =
        siteAt (some store) context is s is.length ∧
      summary.Tallies records := by
  rw [applyAll, Job.outcome_bind] at h ⊢
  rcases hrun : (applyFrom (some store) context 0 is).outcome s with ⟨e | results, s'⟩
  · rw [hrun] at h
    cases h
  rw [hrun] at h
  obtain rfl := Except.ok.inj h
  obtain ⟨hsettled, rfl, rfl⟩ := (outcome_applyFrom_eq_ok_iff _ _ _ _).mp hrun
  have hrecord : ∀ k (hk : k < is.length), ∃ record : Log.Record,
      record.IsOf store context k is[k] (siteAt (some store) context is s k)
        (siteAt (some store) context is s (k + 1)) (resultAt (some store) context is s k is[k]) := by
    intro k hk
    have happly : (is[k].apply (some store) context k).outcome (siteAt (some store) context is s k) =
        (resultAt (some store) context is s k is[k], _) := rfl
    obtain ⟨record, hof⟩ := Log.Record.exists_isOf happly (hsettled k hk) (hlog k hk)
    refine ⟨record, { hof with saved := ?_ }⟩
    rw [siteAt_succ _ _ _ _ hk fun j hj => hsettled j (by omega)]
    exact hof.saved
  choose record hof using hrecord
  refine ⟨List.ofFn fun k : Fin is.length => record k k.isLt, List.length_ofFn, ?_, rfl, ?_⟩
  · intro k hk
    rw [List.getElem_ofFn]
    exact hof k hk
  · apply Summary.tallies_ofResults
    rw [List.forall₂_iff_get]
    refine ⟨by rw [List.length_mapIdx, List.length_ofFn], fun k hk _ => ?_⟩
    rw [List.length_mapIdx] at hk
    simp only [List.get_eq_getElem, List.getElem_mapIdx, List.getElem_ofFn]
    exact (hof k hk).toIsRecordedAs

/-- A file that is made, an edit of a file that is not there, and an instruction that its guard holds
back. -/
theorem applyAll_records_of_three :
    let store : Log.Store := ⟨["logs"]⟩
    let context : Context := ⟨["auth"], ["proj"], "shop", "auth", false⟩
    let onlyIfOther : ConditionGroup := ⟨[⟨.moduleExists, some "other", none, none, none⟩], .all⟩
    let is : List Instruction :=
      [⟨"a.txt", .createFile, some "x", none, none, none, none, none, none⟩,
        ⟨"b.txt", .appendToFile, some "y", none, none, none, none, none, none⟩,
        ⟨"a.txt", .deleteFile, none, none, none, none, none, none, some onlyIfOther⟩]
    let s : Site := ⟨⟨[]⟩, ⟨1000, 1⟩, []⟩
    let summary : Summary :=
      ⟨1, 1, 1, ["APPEND_TO_FILE b.txt: file not found"], ["8c27efca0963", "4ae9d5b6dbb4"]⟩
    LogWritable store context is s ∧
      ((applyAll (some store) context is).outcome s).1 = .ok summary ∧
      ∃ records : List Log.Record, records.length = 3 ∧ summary.Tallies records := by
  intro store context onlyIfOther is s summary
  have hlog : LogWritable store context is s := by decide +kernel
  have hsome : ((applyAll (some store) context is).outcome s).1.toOption = some summary := by
    decide +kernel
  have hrun : ((applyAll (some store) context is).outcome s).1 = .ok summary := by
    cases h : ((applyAll (some store) context is).outcome s).1 with
    | error e =>
      rw [h] at hsome
      cases hsome
    | ok summary' =>
      rw [h] at hsome
      exact congrArg Except.ok (Option.some.inj hsome)
  obtain ⟨records, hlength, -, -, htally⟩ := applyAll_records hlog hrun
  exact ⟨hlog, hrun, records, hlength, htally⟩

end Batch

end Scaffold
