import Scaffold.Guard
import Scaffold.Proofs.ErrorLists

/-!
# When a guard has a verdict

A group has a verdict exactly if all of its members have theirs, and the trace of the verdict is
the list of these. A member has none only if its reason cannot be written: it compares a number of
occurrences with a number of too many digits.
-/

namespace Scaffold

/-- A condition on the number of occurrences, in a file that can be read, whose expected number has
more digits than are written out. -/
def Condition.IsUnwritable (context : Context) (default : Option String) (d : Disk)
    (c : Condition) : Prop :=
  c.kind = .patternCount ∧ (given? c.value).isSome = true ∧
    Number.tenTo Text.maxDigits ≤ (c.count.getD 0).natAbs ∧
    ∃ target t, c.searched? default = some target ∧
      d.textIfAny (context.resolve target) = .ok (some t)

section Judging

variable (context : Context) (default : Option String) (d : Disk)

lemma judgeText_eq_error_iff {c : Condition} {e : Text.Unwritable}
    {judge : String → String → Except Text.Unwritable Verdict} :
    c.judgeText default judge = .error e ↔
      ∃ target pattern, c.searched? default = some target ∧ given? c.value = some pattern ∧
        judge target pattern = .error e := by
  rw [Condition.judgeText]
  cases c.searched? default with
  | none => simp
  | some target =>
    cases given? c.value with
    | none => simp
    | some pattern => simp

lemma judgePattern_ne_error {expected : Bool} {c : Condition} {e : Text.Unwritable} :
    c.judgePattern context default d expected ≠ .error e := by
  rw [Condition.judgePattern, ne_eq, judgeText_eq_error_iff]
  rintro ⟨target, pattern, -, -, h⟩
  dsimp only at h
  split at h <;> cases h

lemma judgeCount_eq_error_iff {c : Condition} {e : Text.Unwritable} :
    c.judgeCount context default d = .error e ↔
      (given? c.value).isSome = true ∧ Number.tenTo Text.maxDigits ≤ (c.count.getD 0).natAbs ∧
        ∃ target t, c.searched? default = some target ∧
          d.textIfAny (context.resolve target) = .ok (some t) := by
  rw [Condition.judgeCount, judgeText_eq_error_iff]
  constructor
  · rintro ⟨target, pattern, htarget, hpattern, h⟩
    dsimp only at h
    split at h
    · cases h
    · cases h
    · next t ht =>
      rw [map_eq_error_iff, decimal_eq_error_iff] at h
      exact ⟨by simp [hpattern], h, target, t, htarget, ht⟩
  · rintro ⟨hvalue, hcount, target, t, htarget, ht⟩
    obtain ⟨pattern, hpattern⟩ := Option.isSome_iff_exists.mp hvalue
    refine ⟨target, pattern, htarget, hpattern, ?_⟩
    dsimp only
    rw [ht]
    exact map_eq_error_iff.mpr (decimal_eq_error_iff.mpr hcount)

/-- A condition has no verdict exactly if its reason cannot be written. -/
lemma Condition.judge_eq_error_iff {c : Condition} {e : Text.Unwritable} :
    c.judge context default d = .error e ↔ c.IsUnwritable context default d := by
  rw [Condition.judge, Condition.IsUnwritable]
  cases hkind : c.kind with
  | patternCount => simp [judgeCount_eq_error_iff]
  | patternExists => simp [judgePattern_ne_error]
  | patternNotExists => simp [judgePattern_ne_error]
  | moduleExists => simp
  | moduleNotExists => simp
  | fileExists => simp
  | fileNotExists => simp

lemma ConditionGroup.judge_eq_map (g : ConditionGroup) :
    g.judge context default d =
      (g.conditions.mapM (Condition.judge context default d)).map fun results =>
        ⟨g.logic.join results, g.logic, results⟩ := by
  rw [ConditionGroup.judge]
  cases g.conditions.mapM (Condition.judge context default d) <;> rfl

/-- The trace of a group's verdict has the verdict on each member, in order. -/
theorem ConditionGroup.judge_eq_ok_iff {g : ConditionGroup} {v : GroupVerdict} :
    g.judge context default d = .ok v ↔
      List.Forall₂ (fun c verdict => c.judge context default d = .ok verdict) g.conditions v.results ∧
        v.passed = g.logic.join v.results ∧ v.logic = g.logic := by
  rw [ConditionGroup.judge_eq_map, map_eq_ok_iff]
  simp only [mapM_eq_ok_iff]
  constructor
  · rintro ⟨results, hresults, rfl⟩
    exact ⟨hresults, rfl, rfl⟩
  · rintro ⟨hresults, hpassed, hlogic⟩
    refine ⟨v.results, hresults, ?_⟩
    rw [← hpassed, ← hlogic]

/-- A group has no verdict exactly if the reason of one of its members cannot be written. -/
theorem ConditionGroup.exists_judge_eq_error_iff {g : ConditionGroup} :
    (∃ e, g.judge context default d = .error e) ↔
      ∃ c ∈ g.conditions, c.IsUnwritable context default d := by
  simp only [ConditionGroup.judge_eq_map, map_eq_error_iff]
  rw [exists_mapM_eq_error_iff]
  constructor
  · rintro ⟨c, hc, e, he⟩
    exact ⟨c, hc, (Condition.judge_eq_error_iff context default d).mp he⟩
  · rintro ⟨c, hc, h⟩
    exact ⟨c, hc, ⟨⟩, (Condition.judge_eq_error_iff context default d).mpr h⟩

end Judging

end Scaffold
