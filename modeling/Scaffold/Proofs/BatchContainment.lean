import Scaffold.Proofs.BatchRun
import Scaffold.Proofs.GuardVerdicts

/-!
# What a batch cannot contain

A batch counts the failure of an instruction, or of its record, and goes on. What it does not count
ends it. The statements give the exact condition under which an instruction fails in a way that ends
the batch: its guard has no verdict, or the disk gives no answer, or the path of the log's directory
has a null character.
-/

namespace Scaffold

open Disk

/-! ### Changes that are stopped -/

section Change

variable {p : Path} {d : Disk}

/-- A change that the disk gives no answer about. The parent of a file that is to be made is made
first, so a null character in the last name only counts if that goes well. -/
def Change.IsStopped (p : Path) (d : Disk) : Change → Prop
  | .create _ =>
    hasNull p.parent = true ∨ (hasNull p = true ∧ (d.makeDirectories p.parent).1 = .ok ())
  | .delete => TooLong d p
  | .edit _ => TooLong d p

lemma write_stopped_iff {t : List Char} :
    (∃ e, (Change.write p t d).1 = .error (.stopped e)) ↔
      (d.saveText p t).1 = .error .nullCharacter := by
  unfold Change.write
  split
  · next he => simp [he]
  · next he => simp [he]
  · next e d' hne he =>
    rw [he]
    constructor
    · rintro ⟨e', h⟩
      cases h
    · intro h
      exact absurd (Except.error.inj h) hne

lemma remove_stopped_iff : (∃ e, (Change.remove p d).1 = .error (.stopped e)) ↔ TooLong d p := by
  unfold Change.remove
  cases hholds : d.holds p with
  | error e => exact iff_of_true ⟨e, rfl⟩ (map_find?_eq_error_iff.mp hholds).1
  | ok there =>
    refine iff_of_false ?_ (not_tooLong_of_map_find? hholds)
    rintro ⟨e, h⟩
    cases there with
    | false => cases h
    | true =>
      dsimp only at h
      split at h <;> cases h

lemma read_stopped_iff : (∃ e, Change.read p d = .error (.stopped e)) ↔ TooLong d p := by
  unfold Change.read
  cases hfile : d.isFile p with
  | error e => exact iff_of_true ⟨e, rfl⟩ (map_find?_eq_error_iff.mp hfile).1
  | ok there =>
    refine iff_of_false ?_ (not_tooLong_of_map_find? hfile)
    rintro ⟨e, h⟩
    cases there with
    | false => cases h
    | true =>
      dsimp only at h
      split at h <;> cases h

lemma hasNull_of_read {t : List Char} (h : Change.read p d = .ok t) : hasNull p = false := by
  unfold Change.read at h
  split at h
  · cases h
  · cases h
  · next hfile => exact hasNull_of_map_find? hfile Bool.noConfusion

/-- A change is stopped exactly if the disk gives no answer about it. An edit that has been read can
also be written as far as its path goes. -/
theorem Change.apply_stopped_iff (c : Change) :
    (∃ e, (c.apply p d).1 = .error (.stopped e)) ↔ c.IsStopped p d := by
  unfold Change.apply Change.IsStopped
  cases c with
  | create content => rw [write_stopped_iff, saveText_eq_null_iff]
  | delete => exact remove_stopped_iff
  | edit f =>
    rw [← read_stopped_iff]
    dsimp only
    cases hread : Change.read p d with
    | error e => simp
    | ok t =>
      have hnull := hasNull_of_read hread
      refine iff_of_false ?_ (by rintro ⟨e, h⟩; cases h)
      dsimp only
      cases hf : f t with
      | none =>
        rintro ⟨e, h⟩
        cases h
      | some t' =>
        dsimp only
        rw [write_stopped_iff, saveText_eq_null_iff, not_or]
        refine ⟨?_, ?_⟩
        · rw [hasNull_parent hnull]
          exact Bool.false_ne_true
        · rw [hnull]
          exact fun h => Bool.false_ne_true h.1

end Change

/-! ### Attempts without an end -/

section Attempt

variable {context : Context} {i : Instruction} {d : Disk}

/-- Whether the guard of an instruction lets it through. -/
def Instruction.IsLetThrough (context : Context) (i : Instruction) (d : Disk) : Prop :=
  ∃ guard, i.judge context d = .ok guard ∧ guard.all GroupVerdict.passed = true

lemma tryChange_stopped_iff :
    (∃ e, (i.tryChange context d).1 = .stopped e) ↔
      i.lacking = [] ∧ i.change.IsStopped (context.resolve i.path) d := by
  rw [← Change.apply_stopped_iff, Instruction.tryChange]
  cases i.lacking with
  | nil =>
    dsimp only
    rcases i.change.apply (context.resolve i.path) d with ⟨(cause | e) | changed, d'⟩
    · simp
    · simp
    · simp
  | cons field fields => simp

lemma judge_error_iff :
    (∃ e, i.judge context d = .error e) ↔
      ∃ g, i.condition = some g ∧ ∃ c ∈ g.conditions, c.IsUnwritable context (some i.path) d := by
  unfold Instruction.judge
  cases i.condition with
  | none => simp
  | some g =>
    simp only [map_eq_error_iff, ConditionGroup.exists_judge_eq_error_iff, Option.some.injEq,
      exists_eq_left']

lemma attempt_error_iff :
    (∃ e, (i.attempt context d).1 = .error e) ↔ ∃ e, i.judge context d = .error e := by
  unfold Instruction.attempt
  cases i.judge context d with
  | error e => exact iff_of_true ⟨e, rfl⟩ ⟨e, rfl⟩
  | ok guard =>
    refine iff_of_false ?_ (by rintro ⟨e, h⟩; cases h)
    dsimp only
    rintro ⟨e, h⟩
    split at h <;> cases h

lemma attempt_stopped_iff :
    (∃ a, (i.attempt context d).1 = .ok a ∧ a.isStopped = true) ↔
      i.IsLetThrough context d ∧ i.lacking = [] ∧
        i.change.IsStopped (context.resolve i.path) d := by
  rw [← tryChange_stopped_iff]
  unfold Instruction.attempt Instruction.IsLetThrough
  cases i.judge context d with
  | error e => simp
  | ok guard =>
    dsimp only
    cases hguard : guard.all GroupVerdict.passed with
    | false => simp [Attempt.isStopped, hguard]
    | true =>
      rcases i.tryChange context d with ⟨ending, d'⟩
      cases ending <;> simp [Attempt.isStopped, hguard]

end Attempt

/-! ### Instructions that end their batch -/

/-- The ways in which an instruction ends its batch: there is no verdict on its guard, or it gets to
its change and the disk gives no answer about it, or the log cannot have a directory. -/
inductive Instruction.EndsBatch (log : Option Log.Store) (context : Context) (i : Instruction)
    (d : Disk) : Prop
  | guard (g : ConditionGroup) (hg : i.condition = some g) (c : Condition) (hc : c ∈ g.conditions)
    (h : c.IsUnwritable context (some i.path) d)
  | change (hthrough : i.IsLetThrough context d) (hlacking : i.lacking = [])
    (h : i.change.IsStopped (context.resolve i.path) d)
  | log (store : Log.Store) (hlog : log = some store) (h : hasNull store.directory = true)

section EndsBatch

variable {log : Option Log.Store} {context : Context} {index : Nat} {i : Instruction} {s : Site}

lemma isShallow_record (a : Attempt) (time : Int) :
    (a.record context index i time).isShallow = true := by
  have hdepth : i.snapshot.depth ≤ 5 := i.depth_snapshot_le
  have hmax : i.snapshot.depth ≤ Log.Record.maxDepth := hdepth.trans (by decide)
  exact decide_eq_true hmax

lemma hash_record (a : Attempt) (time : Int) :
    (a.record context index i time).hash =
      Log.hashOf context.project context.module index time := rfl

lemma isHexDigit_hash_record (a : Attempt) (time : Int) :
    ∀ c ∈ (a.record context index i time).hash.toList, Log.IsHexDigit c :=
  Log.isHexDigit_of_hash_eq (hash_record a time)

/-- A batch goes on after a record that is not saved, unless the log cannot have a directory. -/
lemma isLocal_of_save {a : Attempt} {time : Int} {d : Disk} {store : Log.Store} {e : Failure}
    (h : (store.save (a.record context index i time) d).1 = .error e) :
    e.isLocal = false ↔ hasNull store.directory = true := by
  cases hnull : hasNull store.directory with
  | true =>
    rw [Log.save_of_hasNull hnull] at h
    obtain rfl := Except.error.inj h
    simp [Failure.isLocal]
  | false =>
    obtain ⟨fault, rfl⟩ := Log.log_of_save_error hnull
      (isHexDigit_hash_record a time) (isShallow_record a time) h
    simp [Failure.isLocal]

variable (log context index i s) in
/-- A batch does not go on after an instruction exactly if the instruction ends it. -/
theorem isSettled_apply_eq_false_iff :
    Result.isSettled ((i.apply log context index).outcome s).1 = false ↔
      i.EndsBatch log context s.disk := by
  rw [outcome_apply]
  rcases hattempt : i.attempt context s.disk with ⟨e | a, d⟩
  · have herror : ∃ e, (i.attempt context s.disk).1 = .error e := ⟨e, by rw [hattempt]⟩
    obtain ⟨g, hg, c, hc, h⟩ := judge_error_iff.mp (attempt_error_iff.mp herror)
    dsimp only
    exact iff_of_true rfl (.guard g hg c hc h)
  have hfirst : (i.attempt context s.disk).1 = .ok a := by rw [hattempt]
  have hjudged : ¬∃ e, i.judge context s.disk = .error e := by
    rw [← attempt_error_iff, hfirst]
    rintro ⟨e, he⟩
    cases he
  dsimp only
  cases hstopped : a.isStopped with
  | true =>
    obtain ⟨hthrough, hlacking, h⟩ := attempt_stopped_iff.mp ⟨a, hfirst, hstopped⟩
    rw [if_pos rfl, Attempt.isSettled_result, hstopped]
    exact iff_of_true rfl (.change hthrough hlacking h)
  | false =>
    have hends : i.EndsBatch log context s.disk ↔
        ∃ store, log = some store ∧ hasNull store.directory = true := by
      constructor
      · rintro (⟨g, hg, c, hc, h⟩ | ⟨hthrough, hlacking, h⟩ | ⟨store, hlog, h⟩)
        · exact absurd (judge_error_iff.mpr ⟨g, hg, c, hc, h⟩) hjudged
        · obtain ⟨a', ha', hstopped'⟩ := attempt_stopped_iff.mpr ⟨hthrough, hlacking, h⟩
          rw [hfirst] at ha'
          obtain rfl := Except.ok.inj ha'
          rw [hstopped] at hstopped'
          cases hstopped'
        · exact ⟨store, hlog, h⟩
      · rintro ⟨store, hlog, h⟩
        exact .log store hlog h
    rw [if_neg Bool.false_ne_true, hends]
    cases log with
    | none =>
      dsimp only
      rw [Attempt.isSettled_result, hstopped]
      simp
    | some store =>
      dsimp only
      simp only [Option.some.injEq, exists_eq_left']
      rcases hsave : store.save (a.record context index i s.clock.now) d with ⟨e | path, d'⟩
      · exact isLocal_of_save (congrArg Prod.fst hsave)
      · dsimp only
        rw [Attempt.isSettled_result, hstopped]
        refine iff_of_false Bool.noConfusion fun hnull => ?_
        have herror := Log.save_of_hasNull (r := a.record context index i s.clock.now) (d := d) hnull
        rw [hsave] at herror
        cases herror

end EndsBatch

/-! ### Batches that come to an end -/

namespace Batch

section Containment

variable (log : Option Log.Store) (context : Context) (is : List Instruction) (s : Site)

lemma isSettled_resultAt_iff {k : Nat} (i : Instruction) :
    (resultAt log context is s k i).isSettled = true ↔
      ¬i.EndsBatch log context (siteAt log context is s k).disk := by
  rw [← isSettled_apply_eq_false_iff log context k i, Bool.not_eq_false, resultAt]

end Containment

end Batch

end Scaffold
