import Mathlib.Data.List.Induction
import Mathlib.Data.Nat.Find
import Mathlib.Order.Basic
import Scaffold.Proofs.AttemptOutcome

/-!
# Runs of batches

A batch is followed instruction by instruction: each is carried out on the site that the ones before
it leave. A batch comes to its results exactly if it goes on after every one of them, and otherwise
it ends with the first result after which it does not go on.
-/

namespace Scaffold

/-- Whether a batch goes on after a result. -/
def Result.isSettled : Result → Bool
  | .ok _ => true
  | .error e => e.isLocal

lemma Result.isSettled_eq_false_iff {result : Result} :
    result.isSettled = false ↔ ∃ e, result = .error e ∧ e.isLocal = false := by
  cases result <;> simp [Result.isSettled]

lemma Attempt.isSettled_result (i : Instruction) (a : Attempt) (hash : Option String) :
    (a.result i hash).isSettled = !a.isStopped := by
  obtain ⟨guard, ending⟩ := a
  cases ending <;> rfl

/-- An instruction that a batch with a log goes on after is attempted, the attempt does not stop,
and its record is saved last, or the log says why it could not be. -/
lemma apply_of_isSettled {store : Log.Store} {context : Context} {index : Nat} {i : Instruction}
    {s s' : Site} {result : Result}
    (h : (i.apply (some store) context index).outcome s = (result, s'))
    (hsettled : result.isSettled = true) :
    ∃ a d, i.attempt context s.disk = (.ok a, d) ∧ a.isStopped = false ∧
      let r := a.record context index i s.clock.now
      (store.save r d).2 = s'.disk ∧
        ((∃ p, (store.save r d).1 = .ok p ∧ result = a.result i (some r.hash)) ∨
          ∃ fault, (store.save r d).1 = .error (.log (store.pathOf r.hash) (.unwritable fault)) ∧
            result = .error (.log (store.pathOf r.hash) (.unwritable fault))) := by
  rw [outcome_apply] at h
  rcases hattempt : i.attempt context s.disk with ⟨e | a, d⟩
  · rw [hattempt] at h
    obtain ⟨rfl, -⟩ := Prod.mk.inj h
    cases hsettled
  rw [hattempt] at h
  refine ⟨a, d, rfl, ?_⟩
  cases hstopped : a.isStopped with
  | true =>
    simp only [hstopped, if_true] at h
    obtain ⟨rfl, -⟩ := Prod.mk.inj h
    rw [Attempt.isSettled_result, hstopped] at hsettled
    cases hsettled
  | false =>
    simp only [hstopped, Bool.false_eq_true, if_false] at h
    refine ⟨rfl, ?_⟩
    dsimp only
    rcases hsave : store.save (a.record context index i s.clock.now) d with ⟨e | p, d'⟩
    · rw [hsave] at h
      obtain ⟨rfl, rfl⟩ := Prod.mk.inj h
      rcases Log.save_error (congrArg Prod.fst hsave) with ⟨rfl, -⟩ | ⟨rfl, -⟩ | ⟨fault, rfl⟩
      · cases hsettled
      · cases hsettled
      · exact ⟨rfl, .inr ⟨fault, rfl, rfl⟩⟩
    · rw [hsave] at h
      obtain ⟨rfl, rfl⟩ := Prod.mk.inj h
      exact ⟨rfl, .inl ⟨p, rfl, rfl⟩⟩

lemma Summary.ofResults_cons (result : Result) (results : List Result) :
    Summary.ofResults (result :: results) =
      let rest := Summary.ofResults results
      { executed := rest.executed + if result.status = .success then 1 else 0
        skipped := rest.skipped + if result.status = .skipped then 1 else 0
        failed := rest.failed + if result.status = .failed then 1 else 0
        errors := result.error?.toList ++ rest.errors
        logHashes := result.logHash?.toList ++ rest.logHashes } := by
  simp only [Summary.ofResults, List.countP_cons, List.filterMap_cons]
  rcases result with e | ⟨outcome, changed, conditions, hash⟩
  · simp [Result.isOutcome, Result.error?, Result.logHash?, Result.status]
  · cases outcome <;> cases hash <;>
      simp [Result.isOutcome, Result.error?, Result.logHash?, Result.status]

/-- Every result is counted once. -/
lemma Summary.total_ofResults (results : List Result) :
    let summary := Summary.ofResults results
    summary.executed + summary.skipped + summary.failed = results.length := by
  induction results with
  | nil => rfl
  | cons result rest ih =>
    dsimp only at ih ⊢
    rw [Summary.ofResults_cons, List.length_cons, ← ih]
    dsimp only
    cases result.status <;> simp <;> omega

namespace Batch

/-- The part of a batch that is about one instruction. -/
def step (log : Option Log.Store) (context : Context) (index : Nat) (i : Instruction) :
    Job Result := do
  let result ← Job.catching Failure.isLocal (i.apply log context index)
  Job.print (Result.printed context.verbose (i.label index) result)
  pure result

section Run

variable (log : Option Log.Store) (context : Context)

lemma outcome_step_of_settled {index : Nat} {i : Instruction} {s s' : Site} {result : Result}
    (h : (i.apply log context index).outcome s = (result, s')) (hs : result.isSettled = true) :
    (step log context index i).outcome s =
      (.ok result,
        { s' with
          printed := s'.printed ++ Result.printed context.verbose (i.label index) result }) := by
  unfold step
  cases result with
  | ok r =>
    rw [Job.outcome_bind_of_ok (Job.outcome_catching_of_ok Failure.isLocal h)]
    rfl
  | error e =>
    have hcaught := Job.outcome_catching_of_error Failure.isLocal h
    rw [show e.isLocal = true from hs, if_pos rfl] at hcaught
    rw [Job.outcome_bind_of_ok hcaught]
    rfl

lemma outcome_step_of_unsettled {index : Nat} {i : Instruction} {s s' : Site} {e : Failure}
    (h : (i.apply log context index).outcome s = (.error e, s')) (he : e.isLocal = false) :
    (step log context index i).outcome s = (.error e, s') := by
  have hraised := Job.outcome_catching_of_error Failure.isLocal h
  rw [if_neg (by simp [he])] at hraised
  exact Job.outcome_bind_of_error hraised _

lemma applyFrom_cons (index : Nat) (i : Instruction) (rest : List Instruction) :
    applyFrom log context index (i :: rest) = (do
      let result ← step log context index i
      let later ← applyFrom log context (index + 1) rest
      pure (result :: later)) := by
  simp [applyFrom, step]

lemma applyFrom_append (index : Nat) (is js : List Instruction) :
    applyFrom log context index (is ++ js) = (do
      let results ← applyFrom log context index is
      let later ← applyFrom log context (index + is.length) js
      pure (results ++ later)) := by
  induction is generalizing index with
  | nil => simp [applyFrom]
  | cons i rest ih => simp [applyFrom_cons, ih, Nat.add_assoc, Nat.add_comm 1]

variable (is : List Instruction) (s : Site)

/-- The site that the first instructions of a batch leave. -/
def siteAt (k : Nat) : Site := ((applyFrom log context 0 (is.take k)).outcome s).2

/-- What comes of an instruction when it is carried out at a position of a batch. -/
def resultAt (k : Nat) (i : Instruction) : Result :=
  ((i.apply log context k).outcome (siteAt log context is s k)).1

lemma siteAt_length :
    siteAt log context is s is.length = ((applyFrom log context 0 is).outcome s).2 := by
  rw [siteAt, List.take_length]

lemma siteAt_append {js : List Instruction} {k : Nat} (hk : k ≤ is.length) :
    siteAt log context (is ++ js) s k = siteAt log context is s k := by
  rw [siteAt, siteAt, List.take_append_of_le_length hk]

lemma resultAt_append {js : List Instruction} {i : Instruction} {k : Nat} (hk : k ≤ is.length) :
    resultAt log context (is ++ js) s k i = resultAt log context is s k i := by
  rw [resultAt, resultAt, siteAt_append log context is s hk]

lemma siteAt_take {j k : Nat} (h : j ≤ k) :
    siteAt log context (is.take k) s j = siteAt log context is s j := by
  rw [siteAt, siteAt, List.take_take, min_eq_left h]

lemma resultAt_take {i : Instruction} {j k : Nat} (h : j ≤ k) :
    resultAt log context (is.take k) s j i = resultAt log context is s j i := by
  rw [resultAt, resultAt, siteAt_take log context is s h]

/-- A property of all results of a batch, when an instruction is put at its end. -/
lemma forall_resultAt_concat {i : Instruction} (P : Nat → Result → Prop) :
    (∀ k (hk : k < (is ++ [i]).length),
        P k (resultAt log context (is ++ [i]) s k (is ++ [i])[k])) ↔
      (∀ k (hk : k < is.length), P k (resultAt log context is s k is[k])) ∧
        P is.length (resultAt log context is s is.length i) := by
  constructor
  · intro h
    refine ⟨fun k hk => ?_, ?_⟩
    · have := h k (by simp; omega)
      rwa [resultAt_append log context is s hk.le, List.getElem_append_left hk] at this
    · have := h is.length (by simp)
      rwa [resultAt_append log context is s le_rfl, List.getElem_concat_length rfl] at this
  · rintro ⟨hbefore, hlast⟩ k hk
    rw [List.length_append, List.length_singleton] at hk
    rcases Nat.lt_succ_iff_lt_or_eq.mp hk with hk | rfl
    · rw [resultAt_append log context is s hk.le, List.getElem_append_left hk]
      exact hbefore k hk
    · rw [resultAt_append log context is s le_rfl, List.getElem_concat_length rfl]
      exact hlast

/-- A batch that goes on after every result comes to all of them. -/
theorem outcome_applyFrom_of_settled
    (h : ∀ k (hk : k < is.length), (resultAt log context is s k is[k]).isSettled = true) :
    (applyFrom log context 0 is).outcome s =
      (.ok (is.mapIdx (resultAt log context is s)), siteAt log context is s is.length) := by
  suffices hfst : ((applyFrom log context 0 is).outcome s).1 =
      .ok (is.mapIdx (resultAt log context is s)) by
    rw [siteAt_length, ← hfst]
  -- The induction takes the last instruction off, because the sites are given by what comes before.
  induction is using List.reverseRecOn with
  | nil => rfl
  | append_singleton is i ih =>
    obtain ⟨hbefore, hlast⟩ :=
      (forall_resultAt_concat log context is s fun _ result => result.isSettled = true).mp h
    have hrun : (applyFrom log context 0 is).outcome s =
        (.ok (is.mapIdx (resultAt log context is s)), siteAt log context is s is.length) := by
      rw [siteAt_length, ← ih hbefore]
    have hresults : (is ++ [i]).mapIdx (resultAt log context (is ++ [i]) s) =
        is.mapIdx (resultAt log context is s) ++ [resultAt log context is s is.length i] := by
      rw [List.mapIdx_concat, resultAt_append log context is s le_rfl]
      congr 1
      exact List.mapIdx_eq_mapIdx_iff.mpr fun k hk => resultAt_append log context is s hk.le
    rw [applyFrom_append, Job.outcome_bind_of_ok hrun, applyFrom_cons, Nat.zero_add]
    rw [bind_assoc, Job.outcome_bind_of_ok (outcome_step_of_settled log context rfl hlast)]
    rw [hresults]
    rfl

/-- The first instructions of a batch come to their results if the batch goes on after all of them. -/
lemma outcome_applyFrom_take {k : Nat} (hk : k ≤ is.length)
    (h : ∀ j (hj : j < k), (resultAt log context is s j is[j]).isSettled = true) :
    (applyFrom log context 0 (is.take k)).outcome s =
      (.ok ((is.take k).mapIdx (resultAt log context (is.take k) s)), siteAt log context is s k) := by
  have hlength : (is.take k).length = k := List.length_take_of_le hk
  have hrun := outcome_applyFrom_of_settled log context (is.take k) s fun j hj => by
    have hjk : j < k := by omega
    rw [resultAt_take log context is s hjk.le, List.getElem_take]
    exact h j hjk
  rw [hrun, hlength, siteAt_take log context is s le_rfl]

/-- A batch that goes on after an instruction leaves what the instruction leaves, and has printed
what there is to say about it. -/
lemma siteAt_succ {k : Nat} (hk : k < is.length)
    (h : ∀ j (hj : j ≤ k), (resultAt log context is s j is[j]).isSettled = true) :
    let s' := ((is[k].apply log context k).outcome (siteAt log context is s k)).2
    siteAt log context is s (k + 1) =
      { s' with
        printed := s'.printed ++ Result.printed context.verbose (is[k].label k)
          (resultAt log context is s k is[k]) } := by
  have hrun := outcome_applyFrom_take log context is s hk.le fun j hj => h j hj.le
  have hlength : (is.take k).length = k := List.length_take_of_le hk.le
  have hnext : siteAt log context is s (k + 1) =
      ((applyFrom log context 0 (is.take (k + 1))).outcome s).2 := rfl
  intro s'
  rw [hnext, List.take_succ_eq_append_getElem hk, applyFrom_append, Job.outcome_bind_of_ok hrun,
    hlength, Nat.zero_add, applyFrom_cons, bind_assoc,
    Job.outcome_bind_of_ok (outcome_step_of_settled log context rfl (h k le_rfl))]
  rfl

/-- A batch that does not go on after a result ends with it, and leaves the site as it then is. -/
theorem outcome_applyFrom_of_unsettled {k : Nat} (hk : k < is.length)
    (hbefore : ∀ j (hj : j < k), (resultAt log context is s j is[j]).isSettled = true)
    {e : Failure} {s' : Site}
    (h : (is[k].apply log context k).outcome (siteAt log context is s k) = (.error e, s'))
    (he : e.isLocal = false) :
    (applyFrom log context 0 is).outcome s = (.error e, s') := by
  have hrun := outcome_applyFrom_take log context is s hk.le hbefore
  have hlength : (is.take k).length = k := List.length_take_of_le hk.le
  have hsplit : is = is.take k ++ is[k] :: is.drop (k + 1) := by
    rw [← List.drop_eq_getElem_cons hk, List.take_append_drop]
  rw [hsplit, applyFrom_append, Job.outcome_bind_of_ok hrun, applyFrom_cons, hlength, Nat.zero_add,
    bind_assoc]
  exact Job.outcome_bind_of_error (outcome_step_of_unsettled log context h he) _

/-- If a batch does not go on after every result, there is a first one after which it does not. -/
lemma exists_first_unsettled
    (h : ¬∀ k (hk : k < is.length), (resultAt log context is s k is[k]).isSettled = true) :
    ∃ k, ∃ hk : k < is.length,
      (∀ j (hj : j < k), (resultAt log context is s j is[j]).isSettled = true) ∧
        ∃ e, resultAt log context is s k is[k] = .error e ∧ e.isLocal = false := by
  classical
  have hex : ∃ k, ∃ hk : k < is.length, (resultAt log context is s k is[k]).isSettled ≠ true := by
    simpa only [not_forall] using h
  obtain ⟨hk, hunsettled⟩ := Nat.find_spec hex
  refine ⟨Nat.find hex, hk, fun j hj => ?_, ?_⟩
  · by_contra hnot
    exact Nat.find_min hex hj ⟨hj.trans hk, hnot⟩
  · exact Result.isSettled_eq_false_iff.mp (by simpa using hunsettled)

/-- A batch comes to its results exactly if it goes on after every one of them. -/
theorem outcome_applyFrom_eq_ok_iff {results : List Result} {s' : Site} :
    (applyFrom log context 0 is).outcome s = (.ok results, s') ↔
      (∀ k (hk : k < is.length), (resultAt log context is s k is[k]).isSettled = true) ∧
        results = is.mapIdx (resultAt log context is s) ∧
        s' = siteAt log context is s is.length := by
  constructor
  · intro h
    have hall : ∀ k (hk : k < is.length),
        (resultAt log context is s k is[k]).isSettled = true := by
      by_contra hnot
      obtain ⟨k, hk, hbefore, e, hresult, he⟩ := exists_first_unsettled log context is s hnot
      have hstop := outcome_applyFrom_of_unsettled log context is s hk hbefore
        (Prod.ext hresult rfl) he
      rw [hstop] at h
      cases h
    have hrun := outcome_applyFrom_of_settled log context is s hall
    rw [hrun] at h
    obtain ⟨hresults, rfl⟩ := Prod.mk.inj h
    exact ⟨hall, (Except.ok.inj hresults).symm, rfl⟩
  · rintro ⟨hall, rfl, rfl⟩
    exact outcome_applyFrom_of_settled log context is s hall

end Run

end Batch

end Scaffold
