import Scaffold.Proofs.BatchContainment
import Scaffold.Proofs.BatchRecords
import Scaffold.Proofs.DiskAgreement
import Scaffold.Proofs.RunFrame

/-!
# Runs with and without a log

A batch is run on one site with a log and without. The two runs are followed side by side: as long
as no path that the instructions name meets a place of the log, they find the same at every path,
come to the same verdicts and make the same changes, and differ only in what the log has written.
What the log does is added to the results afterwards: a hash if the record was saved, or the failure
of the log in place of what the instruction came to.
-/

namespace Scaffold

open Disk

/-- A result without the hash of its record. -/
def Result.withoutHash : Result → Result
  | .ok r => .ok { r with logHash := none }
  | .error e => .error e

/-- No path that an instruction names meets a place of the log. -/
def Instruction.AvoidsLog (store : Log.Store) (context : Context) (d : Disk) (i : Instruction) :
    Prop :=
  ∀ p ∈ i.namedPaths context, p.StaysOn fun l => ¬store.Owns d l

instance (store : Log.Store) (context : Context) (d : Disk) (i : Instruction) :
    Decidable (i.AvoidsLog store context d) :=
  inferInstanceAs (Decidable (∀ p ∈ i.namedPaths context, p.StaysOn fun l => ¬store.Owns d l))

/-! ### One instruction -/

section Step

variable {store : Log.Store} {context : Context} {index : Nat} {i : Instruction}

lemma Attempt.withoutHash_result (a : Attempt) (hash : Option String) :
    (a.result i hash).withoutHash = a.result i none := by
  obtain ⟨guard, ending⟩ := a
  cases ending <;> rfl

variable (store context index i) in
/-- The records that the log saves leave alone what it does not own. -/
lemma agreeOn_save {d₀ d : Disk} (hkept : d₀.KeepsDirectories d) (a : Attempt) (time : Int) :
    AgreeOn (fun l => ¬store.Owns d₀ l) (store.save (a.record context index i time) d).2 d := by
  intro l hl
  exact (save_changesOnly (isHexDigit_hash_record a time) hkept l).resolve_right hl

/-- An instruction that a batch with a log goes on after is carried out alike without the log, on
disks that differ only in places of the log. -/
lemma apply_agrees {d₀ : Disk} {t t' : Site} (hi : i.AvoidsLog store context d₀)
    (hkept : d₀.KeepsDirectories t.disk) (h : AgreeOn (fun l => ¬store.Owns d₀ l) t.disk t'.disk)
    (hsettled : Result.isSettled ((i.apply (some store) context index).outcome t).1 = true) :
    let logged := (i.apply (some store) context index).outcome t
    let bare := (i.apply none context index).outcome t'
    (i.attempt context t.disk).1 = (i.attempt context t'.disk).1 ∧
      Result.isSettled bare.1 = true ∧
      AgreeOn (fun l => ¬store.Owns d₀ l) logged.2.disk bare.2.disk ∧
      (Result.isUnlogged logged.1 = true ∨ Result.withoutHash logged.1 = bare.1) := by
  intro logged bare
  have hlogged : (i.apply (some store) context index).outcome t = (logged.1, logged.2) := rfl
  obtain ⟨a, d, hattempt, hstopped, hsave, hresult⟩ := apply_of_isSettled hlogged hsettled
  have hbare : bare = _ := outcome_apply none context index i t'
  have hkept' := hkept.trans (keepsDirectories_attempt context i t.disk)
  have hagree := Instruction.attempt_congr h hi
  rw [hattempt] at hkept' hagree
  generalize i.attempt context t'.disk = attempted at hbare hagree ⊢
  obtain ⟨-, hdisk⟩ := hagree
  simp only [hstopped, Bool.false_eq_true, if_false] at hbare
  have hsaved : AgreeOn (fun l => ¬store.Owns d₀ l) logged.2.disk d :=
    hsave ▸ agreeOn_save store context index i hkept' a t.clock.now
  rw [hattempt, hbare]
  refine ⟨rfl, ?_, hsaved.trans hdisk, ?_⟩
  · rw [Attempt.isSettled_result, hstopped]
    rfl
  · rcases hresult with ⟨p, -, hresult⟩ | ⟨fault, -, hresult⟩
    · right
      rw [hresult]
      exact a.withoutHash_result _
    · left
      rw [hresult]
      rfl

end Step

/-! ### Whole runs -/

namespace Batch

section Run

variable {store : Log.Store} {context : Context} {is : List Instruction} {s : Site}

lemma keepsDirectories_siteAt (log : Option Log.Store) (k : Nat) :
    s.disk.KeepsDirectories (siteAt log context is s k).disk :=
  relates_applyFrom (fun _ _ hl => hl) (fun _ _ _ h₁ h₂ => h₁.trans h₂)
    (fun i _ index => keepsDirectories_apply log context index i) 0 s

variable (havoid : ∀ i ∈ is, i.AvoidsLog store context s.disk)
  (hsettled : ∀ k (hk : k < is.length),
    (resultAt (some store) context is s k is[k]).isSettled = true)

include havoid hsettled

/-- A batch that goes on after every instruction with a log does so without it, and at each position
the two runs have left disks that differ only in places of the log. -/
theorem siteAt_agree {k : Nat} (hk : k ≤ is.length) :
    AgreeOn (fun l => ¬store.Owns s.disk l) (siteAt (some store) context is s k).disk
        (siteAt none context is s k).disk ∧
      ∀ j (hj : j < is.length), j < k →
        (resultAt none context is s j is[j]).isSettled = true := by
  induction k with
  | zero => exact ⟨fun _ _ => rfl, fun j _ hj => absurd hj (Nat.not_lt_zero j)⟩
  | succ k ih =>
    obtain ⟨hagree, hbare⟩ := ih (by omega)
    obtain ⟨-, hlast, hdisk, -⟩ := apply_agrees (havoid is[k] (List.getElem_mem hk))
      (keepsDirectories_siteAt (some store) k) hagree (hsettled k hk)
    have hbare' : ∀ j (hj : j ≤ k), (resultAt none context is s j is[j]).isSettled = true := by
      intro j hj
      rcases Nat.lt_or_eq_of_le hj with hlt | rfl
      · exact hbare j (by omega) hlt
      · exact hlast
    refine ⟨?_, fun j _ hj => hbare' j (by omega)⟩
    rw [siteAt_succ (some store) context is s hk fun j hj => hsettled j (by omega),
      siteAt_succ none context is s hk hbare']
    exact hdisk

/-- The two runs come to the same decision about each instruction. -/
lemma decisions_agree {k : Nat} (hk : k < is.length) :
    (is[k].attempt context (siteAt (some store) context is s k).disk).1 =
        (is[k].attempt context (siteAt none context is s k).disk).1 ∧
      ((resultAt (some store) context is s k is[k]).isUnlogged = true ∨
        (resultAt (some store) context is s k is[k]).withoutHash =
          resultAt none context is s k is[k]) := by
  obtain ⟨hagree, -⟩ := siteAt_agree havoid hsettled hk.le
  obtain ⟨hattempt, -, -, hresult⟩ := apply_agrees (havoid is[k] (List.getElem_mem hk))
    (keepsDirectories_siteAt (some store) k) hagree (hsettled k hk)
  exact ⟨hattempt, hresult⟩

end Run

end Batch

/-! ### Tallies -/

/-- Without their hashes results are tallied alike, but for the list of hashes. -/
lemma Summary.ofResults_map_withoutHash (results : List Result) :
    Summary.ofResults (results.map Result.withoutHash) =
      { Summary.ofResults results with logHashes := [] } := by
  induction results with
  | nil => rfl
  | cons result rest ih =>
    rw [List.map_cons, Summary.ofResults_cons, ih, Summary.ofResults_cons]
    rcases result with e | ⟨outcome, changed, conditions, hash⟩
    · rfl
    · cases outcome <;> rfl

lemma Summary.ofResults_of_failed (results : List Result)
    (h : ∀ result ∈ results, result.status = .failed) :
    (Summary.ofResults results).failed = results.length ∧
      (Summary.ofResults results).logHashes = [] := by
  induction results with
  | nil => exact ⟨rfl, rfl⟩
  | cons result rest ih =>
    obtain ⟨hresult, hrest⟩ := List.forall_mem_cons.mp h
    obtain ⟨hfailed, hhashes⟩ := ih hrest
    have hhash : result.logHash? = none := by
      rcases result with e | ⟨outcome, changed, conditions, hash⟩
      · rfl
      · cases outcome <;> cases hresult
    rw [Summary.ofResults_cons]
    simp [hresult, hfailed, hhashes, hhash]

namespace Batch

/-- No record of a batch can be saved. -/
def LogUnwritable (store : Log.Store) (context : Context) (is : List Instruction) (s : Site) :
    Prop :=
  ∀ k (hk : k < is.length) (a : Attempt) (d : Disk),
    is[k].attempt context (siteAt (some store) context is s k).disk = (.ok a, d) →
    ∃ e, (store.save (a.record context k is[k]
      (siteAt (some store) context is s k).clock.now) d).1 = .error e

section Run

variable {store : Log.Store} {context : Context} {is : List Instruction} {s : Site}

/-- If no record can be saved, every instruction that the batch goes on after counts as failed. -/
lemma status_of_logUnwritable (hlog : LogUnwritable store context is s) {k : Nat}
    (hk : k < is.length)
    (hsettled : (resultAt (some store) context is s k is[k]).isSettled = true) :
    (resultAt (some store) context is s k is[k]).status = .failed := by
  have hrun : (is[k].apply (some store) context k).outcome (siteAt (some store) context is s k) =
    (resultAt (some store) context is s k is[k], _) := Prod.ext rfl rfl
  obtain ⟨a, d, hattempt, -, -, ⟨p, hsaved, -⟩ | ⟨fault, -, hfailed⟩⟩ :=
    apply_of_isSettled hrun hsettled
  · obtain ⟨e, he⟩ := hlog k hk a d hattempt
    rw [hsaved] at he
    cases he
  · rw [hfailed]
    rfl

end Run

/-- A batch that comes to its summary with a log, of which no place is met by the paths that its
instructions name, comes to one without the log as well. Each instruction is judged alike in the two
runs and comes to the same, and what they leave differs only in places of the log. If every record
is saved, the summaries differ only in the hashes; if none is, every instruction counts as failed
and there are no hashes. -/
theorem applyAll_logIndependent {store : Log.Store} {context : Context} {is : List Instruction}
    {s : Site} {summary : Summary} (havoid : ∀ i ∈ is, i.AvoidsLog store context s.disk)
    (h : ((applyAll (some store) context is).outcome s).1 = .ok summary) :
    ∃ bare : Summary, ((applyAll none context is).outcome s).1 = .ok bare ∧
      (∀ k (hk : k < is.length),
        (is[k].attempt context (siteAt (some store) context is s k).disk).1 =
          (is[k].attempt context (siteAt none context is s k).disk).1 ∧
        ((resultAt (some store) context is s k is[k]).isUnlogged = true ∨
          (resultAt (some store) context is s k is[k]).withoutHash =
            resultAt none context is s k is[k])) ∧
      AgreeOn (fun l => ¬store.Owns s.disk l) ((applyAll (some store) context is).outcome s).2.disk
        ((applyAll none context is).outcome s).2.disk ∧
      (LogWritable store context is s → { summary with logHashes := [] } = bare) ∧
      (LogUnwritable store context is s → summary.failed = is.length ∧ summary.logHashes = []) := by
  obtain ⟨results, s', hrun, hpure⟩ :=
    Job.outcome_bind_eq_ok.mp (Prod.ext h rfl : _ = (Except.ok summary, _))
  obtain ⟨hsettled, rfl, rfl⟩ := (outcome_applyFrom_eq_ok_iff _ _ _ _).mp hrun
  obtain rfl : Summary.ofResults _ = summary := Except.ok.inj (Prod.mk.inj hpure).1
  obtain ⟨hagree, hbare⟩ := siteAt_agree havoid hsettled le_rfl
  have hdecisions := fun k (hk : k < is.length) => decisions_agree havoid hsettled hk
  have hlogged : (applyAll (some store) context is).outcome s = _ :=
    Job.outcome_bind_of_ok hrun _
  have hwithout : (applyAll none context is).outcome s = _ :=
    Job.outcome_bind_of_ok
      (outcome_applyFrom_of_settled none context is s fun k hk => hbare k hk hk) _
  refine ⟨.ofResults (is.mapIdx (resultAt none context is s)), by rw [hwithout]; rfl, hdecisions,
    ?_, fun hlog => ?_, fun hlog => ?_⟩
  · rw [hlogged, hwithout]
    exact hagree
  · rw [← Summary.ofResults_map_withoutHash]
    congr 1
    refine List.ext_getElem (by simp) fun k hk _ => ?_
    rw [List.length_map, List.length_mapIdx] at hk
    rw [List.getElem_map, List.getElem_mapIdx, List.getElem_mapIdx]
    refine (hdecisions k hk).2.resolve_left ?_
    rw [hlog k hk]
    exact Bool.false_ne_true
  · have hfailed := Summary.ofResults_of_failed
      (is.mapIdx (resultAt (some store) context is s)) fun result hresult => ?_
    · rw [List.length_mapIdx] at hfailed
      exact hfailed
    · obtain ⟨k, hk, rfl⟩ := List.mem_mapIdx.mp hresult
      exact status_of_logUnwritable hlog hk (hsettled k hk)

/-- A log beside the project, and one whose directory would be in a file: a file is made, an edit
finds no file, and an instruction is held back by its guard. -/
theorem applyAll_logIndependent_of_three :
    let context : Context := ⟨["auth"], ["proj"], "shop", "auth", false⟩
    let unlessThere : ConditionGroup := ⟨[⟨.fileNotExists, none, none, none, some "a.txt"⟩], .all⟩
    let is : List Instruction :=
      [⟨"a.txt", .createFile, some "x", none, none, none, none, none, none⟩,
        ⟨"b.txt", .appendToFile, some "y", none, none, none, none, none, none⟩,
        ⟨"a.txt", .deleteFile, none, none, none, none, none, none, some unlessThere⟩]
    let s : Site :=
      ⟨⟨[(["proj"], .directory), (["keep.txt"], .file [107])]⟩, ⟨1000, 1⟩, []⟩
    let run (log : Option Log.Store) := (applyAll log context is).outcome s
    let beside : Log.Store := ⟨["logs"]⟩
    let blocked : Log.Store := ⟨["keep.txt", "logs"]⟩
    (∀ i ∈ is, i.AvoidsLog beside context s.disk) ∧ (∀ i ∈ is, i.AvoidsLog blocked context s.disk) ∧
      LogWritable beside context is s ∧ LogUnwritable blocked context is s ∧
      ∃ bare logged failing : Summary, (run none).1 = .ok bare ∧
        (run (some beside)).1 = .ok logged ∧ { logged with logHashes := [] } = bare ∧
        (run (some blocked)).1 = .ok failing ∧ failing.failed = 3 ∧ failing.logHashes = [] ∧
        AgreeOn (fun l => ¬blocked.Owns s.disk l) (run (some blocked)).2.disk
          (run none).2.disk := by
  intro context unlessThere is s run beside blocked
  have hbeside : ∀ i ∈ is, i.AvoidsLog beside context s.disk := by decide +kernel
  have hblocked : ∀ i ∈ is, i.AvoidsLog blocked context s.disk := by decide +kernel
  have hwritable : LogWritable beside context is s := by decide +kernel
  have hdirectory : ∀ k (hk : k < is.length),
      ((is[k].attempt context (siteAt (some blocked) context is s k).disk).2.makeDirectories
        blocked.directory).1.isOk = false := by decide +kernel
  have hunwritable : LogUnwritable blocked context is s := by
    intro k hk a d hattempt
    have hno := hdirectory k hk
    rw [hattempt] at hno
    exact Log.save_of_not_isOk hno
  have hreturns (log : Option Log.Store) (h : (run log).1.toOption.isSome = true) :
      ∃ summary, (run log).1 = .ok summary := by
    cases hrun : (run log).1 with
    | ok summary => exact ⟨summary, rfl⟩
    | error e =>
      rw [hrun] at h
      cases h
  obtain ⟨logged, hlogged⟩ := hreturns (some beside) (by decide +kernel)
  obtain ⟨failing, hfailing⟩ := hreturns (some blocked) (by decide +kernel)
  obtain ⟨bare, hbare, -, -, hsame, -⟩ := applyAll_logIndependent hbeside hlogged
  obtain ⟨-, -, -, hagree, -, hfailed⟩ := applyAll_logIndependent hblocked hfailing
  obtain ⟨hcount, hhashes⟩ := hfailed hunwritable
  exact ⟨hbeside, hblocked, hwritable, hunwritable, bare, logged, failing, hbare, hlogged,
    hsame hwritable, hfailing, hcount, hhashes, hagree⟩

/-- The first record makes a directory that one of the instructions passes on its way, though the
path leads elsewhere: with the log a guard passes that does not pass without it. -/
theorem not_applyAll_logIndependent :
    let context : Context := ⟨[], ["proj"], "shop", "auth", false⟩
    let ifThere : ConditionGroup :=
      ⟨[⟨.fileExists, none, none, none, some "../cache/../proj/a.txt"⟩], .all⟩
    let is : List Instruction :=
      [⟨"a.txt", .createFile, some "x", none, none, none, none, none, none⟩,
        ⟨"b.txt", .createFile, some "y", none, none, none, none, none, some ifThere⟩]
    let store : Log.Store := ⟨["cache", "logs"]⟩
    let s : Site := ⟨⟨[(["proj"], .directory)]⟩, ⟨1000, 1⟩, []⟩
    let run (log : Option Log.Store) := (applyAll log context is).outcome s
    (∀ i ∈ is, ∀ p ∈ i.namedPaths context,
        ¬store.directory.location <+: p.location ∧ ¬p.location <+: store.directory.location) ∧
      (run none).1.toOption = some ⟨1, 1, 0, [], []⟩ ∧
      (run (some store)).1.toOption = some ⟨2, 0, 0, [], ["8c27efca0963", "96c3976e22e0"]⟩ ∧
      (run none).2.disk.entry? ["proj", "b.txt"] = none ∧
      (run (some store)).2.disk.entry? ["proj", "b.txt"] = some (.file [121]) := by
  intro context ifThere is store s run
  refine ⟨by decide +kernel, by decide +kernel, by decide +kernel, by decide +kernel, ?_⟩
  decide +kernel

end Batch

end Scaffold
