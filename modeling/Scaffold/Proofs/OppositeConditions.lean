import Scaffold.Proofs.GuardVerdicts
import Scaffold.Proofs.ReadableFile

/-!
# Conditions and their duals

Every condition has a dual that asks for the opposite: the other answer about a module, a pattern or
a file, or the comparison that holds of a number of occurrences when the given one does not. Where a
condition has something to go by, its dual comes to the opposite verdict, and a group that asks for
one of the duals to the opposite of the group that asks for all of the conditions. Where it has not,
neither of the two passes.
-/

namespace Scaffold

/-! ### Duals -/

/-- The comparison that holds exactly if the given one does not. -/
def Comparison.complement : Comparison → Comparison
  | .equals => .notEquals
  | .notEquals => .equals
  | .greaterThan => .lessOrEqual
  | .lessThan => .greaterOrEqual
  | .greaterOrEqual => .lessThan
  | .lessOrEqual => .greaterThan

/-- The kind that asks for the other answer. A number of occurrences is not a question of yes or no,
so that its kind stays. -/
def ConditionKind.dual : ConditionKind → ConditionKind
  | .moduleExists => .moduleNotExists
  | .moduleNotExists => .moduleExists
  | .patternExists => .patternNotExists
  | .patternNotExists => .patternExists
  | .patternCount => .patternCount
  | .fileExists => .fileNotExists
  | .fileNotExists => .fileExists

/-- The condition that asks for the opposite of the same thing. -/
def Condition.dual (c : Condition) : Condition :=
  { c with
    kind := c.kind.dual
    operator :=
      if c.kind = .patternCount then some (c.operator.getD .equals).complement else c.operator }

/-- How a logic joins one answer to the answer of the others. -/
def Logic.combine : Logic → Bool → Bool → Bool
  | .all => and
  | .any => or

lemma Logic.join_cons (logic : Logic) (v : Verdict) (vs : List Verdict) :
    logic.join (v :: vs) = logic.combine v.passed (logic.join vs) := by
  cases logic <;> rfl

lemma Comparison.holds_complement (comparison : Comparison) (m n : Int) :
    comparison.complement.holds m n = !comparison.holds m n := by
  cases comparison <;> simp only [complement, holds, ← Int.not_lt, ne_eq, decide_not, Bool.not_not]

namespace Condition

/-- A condition has what it needs for an answer: the name of a module; a pattern and a file to look
for it in, which has to be readable if occurrences are counted; or a file about which it can be found
out whether it exists. -/
def IsDeterminate (context : Context) (default : Option String) (d : Disk) (c : Condition) : Prop :=
  match c.kind with
  | .moduleExists | .moduleNotExists => ∃ name, c.value = some name ∧ name ≠ ""
  | .patternExists | .patternNotExists =>
    ∃ p pattern, c.Searches context default p pattern ∧ pattern ≠ ""
  | .patternCount =>
    ∃ p pattern t, c.Searches context default p pattern ∧ pattern ≠ "" ∧ d.readText p = .ok t
  | .fileExists | .fileNotExists =>
    ∃ target there, given? ((given? c.target).or c.value) = some target ∧
      d.holds (context.resolve target) = .ok there

/-- Whether a condition passes, if there is a verdict on it. -/
def answer (context : Context) (default : Option String) (d : Disk) (c : Condition) :
    Except Text.Unwritable Bool :=
  (c.judge context default d).map Verdict.passed

section Answers

variable {context : Context} {default : Option String} {d : Disk} {c : Condition} {p : Path}
  {pattern : String}

lemma passes_iff : c.Passes context default d ↔ c.answer context default d = .ok true :=
  map_eq_ok_iff.symm

lemma Searches.dual (h : c.Searches context default p pattern) :
    c.dual.Searches context default p pattern := ⟨h.value, h.target⟩

/-! ### Conditions that have what they need -/

lemma judgeModule_not {name : String} (hvalue : c.value = some name) (hname : name ≠ "")
    (expected : Bool) :
    (c.judgeModule context (!expected)).passed = !(c.judgeModule context expected).passed := by
  have hgiven : given? c.value = some name := given?_eq_some_iff.mpr ⟨hvalue, hname⟩
  simp only [judgeModule, hgiven]
  cases context.selected.contains name <;> cases expected <;> rfl

/-- A pattern counts as absent from a file that cannot be read, so that the two answers are opposite
also then. -/
lemma judgePattern_not (hsearch : c.Searches context default p pattern) (hpattern : pattern ≠ "")
    (expected : Bool) :
    (c.judgePattern context default d (!expected)).map Verdict.passed =
      ((c.judgePattern context default d expected).map Verdict.passed).map (!·) := by
  obtain ⟨target, rfl, hjudge⟩ := hsearch.judgeText_eq hpattern
  simp only [judgePattern, hjudge]
  cases d.textIfAny (context.resolve target) with
  | error e => rfl
  | ok text =>
    cases text with
    | none => rfl
    | some t => cases expected <;> simp [Except.map]

lemma judgeFile_not {target : String} {there : Bool}
    (htarget : given? ((given? c.target).or c.value) = some target)
    (hthere : d.holds (context.resolve target) = .ok there) (expected : Bool) :
    (c.judgeFile context d (!expected)).passed = !(c.judgeFile context d expected).passed := by
  simp only [judgeFile, htarget, hthere]
  cases there <;> cases expected <;> rfl

lemma judgeCount_dual {t : List Char} (hkind : c.kind = .patternCount)
    (hsearch : c.Searches context default p pattern) (hpattern : pattern ≠ "")
    (ht : d.readText p = .ok t) :
    (c.dual.judgeCount context default d).map Verdict.passed =
      ((c.judgeCount context default d).map Verdict.passed).map (!·) := by
  have hkind' : c.dual.kind = .patternCount := congrArg ConditionKind.dual hkind
  have hcount : c.dual.count = c.count := rfl
  have hoperator : c.dual.operator = some (c.operator.getD .equals).complement := if_pos hkind
  have hjudge := judge_patternCount hkind hsearch hpattern ht
  have hjudge' := judge_patternCount hkind' hsearch.dual hpattern ht
  rw [judge, hkind] at hjudge
  rw [judge, hkind', hoperator, hcount] at hjudge'
  simp only [Option.getD_some, Comparison.holds_complement] at hjudge hjudge'
  rw [hjudge, hjudge']
  cases Text.decimal (c.count.getD 0) <;> rfl

/-- The dual of a condition that has what it needs comes to the opposite. -/
lemma answer_dual (h : c.IsDeterminate context default d) :
    c.dual.answer context default d = (c.answer context default d).map (!·) := by
  have hdual : c.dual.kind = c.kind.dual := rfl
  -- the kind decides on both sides, so that each kind meets its opposite
  rw [answer, answer, judge, judge, hdual]
  unfold IsDeterminate at h
  cases hkind : c.kind <;> simp only [hkind] at h
  case moduleExists =>
    obtain ⟨name, hvalue, hname⟩ := h
    exact congrArg Except.ok (judgeModule_not hvalue hname true)
  case moduleNotExists =>
    obtain ⟨name, hvalue, hname⟩ := h
    exact congrArg Except.ok (judgeModule_not hvalue hname false)
  case patternExists =>
    obtain ⟨p, pattern, hsearch, hpattern⟩ := h
    exact judgePattern_not hsearch hpattern true
  case patternNotExists =>
    obtain ⟨p, pattern, hsearch, hpattern⟩ := h
    exact judgePattern_not hsearch hpattern false
  case patternCount =>
    obtain ⟨p, pattern, t, hsearch, hpattern, ht⟩ := h
    exact judgeCount_dual hkind hsearch hpattern ht
  case fileExists =>
    obtain ⟨target, there, htarget, hthere⟩ := h
    exact congrArg Except.ok (judgeFile_not htarget hthere true)
  case fileNotExists =>
    obtain ⟨target, there, htarget, hthere⟩ := h
    exact congrArg Except.ok (judgeFile_not htarget hthere false)

/-! ### Conditions that have not -/

lemma exists_name_of_judgeModule {expected : Bool}
    (h : (c.judgeModule context expected).passed = true) :
    ∃ name, c.value = some name ∧ name ≠ "" := by
  rw [judgeModule] at h
  split at h
  · cases h
  · next name hname => exact ⟨name, given?_eq_some_iff.mp hname⟩

lemma exists_searches_of_judgeText {judge : String → String → Except Text.Unwritable Verdict}
    {v : Verdict} (h : c.judgeText default judge = .ok v) (hv : v.passed = true) :
    ∃ p pattern, c.Searches context default p pattern ∧ pattern ≠ "" := by
  obtain ⟨target, pattern, htarget, hvalue, hpattern, -⟩ := exists_of_judgeText h hv
  exact ⟨context.resolve target, pattern, ⟨hvalue, target, htarget, rfl⟩, hpattern⟩

lemma exists_holds_of_judgeFile {expected : Bool}
    (h : (c.judgeFile context d expected).passed = true) :
    ∃ target there, given? ((given? c.target).or c.value) = some target ∧
      d.holds (context.resolve target) = .ok there := by
  rw [judgeFile] at h
  split at h
  · cases h
  · next target htarget =>
    split at h
    · cases h
    · next there hthere => exact ⟨target, there, htarget, hthere⟩

/-- A condition that passes has what it needs. -/
lemma Passes.isDeterminate (h : c.Passes context default d) :
    c.IsDeterminate context default d := by
  obtain ⟨v, hjudge, hv⟩ := id h
  rw [judge] at hjudge
  unfold IsDeterminate
  cases hkind : c.kind <;> simp only [hkind, Except.ok.injEq] at hjudge ⊢
  case moduleExists => exact exists_name_of_judgeModule (hjudge ▸ hv)
  case moduleNotExists => exact exists_name_of_judgeModule (hjudge ▸ hv)
  case patternExists => exact exists_searches_of_judgeText hjudge hv
  case patternNotExists => exact exists_searches_of_judgeText hjudge hv
  case patternCount =>
    obtain ⟨target, pattern, t, htarget, hvalue, hpattern, ht⟩ := h.exists_readText (.inr hkind)
    exact ⟨_, pattern, t, ⟨hvalue, target, htarget, rfl⟩, hpattern, ht⟩
  case fileExists => exact exists_holds_of_judgeFile (hjudge ▸ hv)
  case fileNotExists => exact exists_holds_of_judgeFile (hjudge ▸ hv)

/-- A condition and its dual never both pass. -/
lemma not_passes_dual : ¬(c.Passes context default d ∧ c.dual.Passes context default d) := by
  rintro ⟨h, hdual⟩
  rw [passes_iff, answer_dual h.isDeterminate, passes_iff.mp h] at hdual
  cases hdual

end Answers

end Condition

/-! ### Groups -/

namespace ConditionGroup

/-- Whether a group passes, if there is a verdict on it. -/
def answer (context : Context) (default : Option String) (d : Disk) (g : ConditionGroup) :
    Except Text.Unwritable Bool :=
  (g.judge context default d).map GroupVerdict.passed

section Answers

variable {context : Context} {default : Option String} {d : Disk}

lemma passes_iff {g : ConditionGroup} :
    g.Passes context default d ↔ g.answer context default d = .ok true := map_eq_ok_iff.symm

lemma answer_cons (logic : Logic) (c : Condition) (rest : List Condition) :
    answer context default d ⟨c :: rest, logic⟩ = (do
      let first ← c.answer context default d
      let later ← answer context default d ⟨rest, logic⟩
      pure (logic.combine first later)) := by
  rw [answer, answer, judge_eq_map, judge_eq_map, List.mapM_cons, Condition.answer]
  cases c.judge context default d with
  | error e => rfl
  | ok v =>
    cases rest.mapM (Condition.judge context default d) with
    | error e => rfl
    | ok vs => exact congrArg Except.ok (logic.join_cons v vs)

/-- A group that asks for one of the duals comes to the opposite of the group that asks for all of
the conditions. -/
theorem answer_duals {cs : List Condition} (h : ∀ c ∈ cs, c.IsDeterminate context default d) :
    answer context default d ⟨cs.map Condition.dual, .any⟩ =
      (answer context default d ⟨cs, .all⟩).map (!·) := by
  induction cs with
  | nil => rfl
  | cons c rest ih =>
    obtain ⟨hc, hrest⟩ := List.forall_mem_cons.mp h
    rw [List.map_cons, answer_cons, answer_cons, Condition.answer_dual hc, ih hrest]
    cases c.answer context default d with
    | error e => rfl
    | ok first =>
      cases answer context default d ⟨rest, .all⟩ with
      | error e => rfl
      | ok later => exact congrArg Except.ok (Bool.not_and first later).symm

lemma exists_answer_eq_error_iff {cs : List Condition} {logic : Logic} :
    (∃ e, answer context default d ⟨cs, logic⟩ = .error e) ↔
      ∃ c ∈ cs, c.IsUnwritable context default d := by
  simp only [answer, map_eq_error_iff]
  exact exists_judge_eq_error_iff context default d

end Answers

/-- A condition and its dual never both pass. For conditions that have what they need, the group that
asks for one of the duals has a verdict if the group that asks for all of the conditions has one, and
it is the opposite one. So one of the two groups passes exactly if the other does not, unless a count
has too many digits to be written out: then neither of them has a verdict. -/
theorem passes_duals_iff (context : Context) (default : Option String) (d : Disk) :
    (∀ c : Condition, ¬(c.Passes context default d ∧ c.dual.Passes context default d)) ∧
      ∀ cs : List Condition, (∀ c ∈ cs, c.IsDeterminate context default d) →
        answer context default d ⟨cs.map Condition.dual, .any⟩ =
            (answer context default d ⟨cs, .all⟩).map (!·) ∧
          ((Passes context default d ⟨cs.map Condition.dual, .any⟩ ↔
              ¬Passes context default d ⟨cs, .all⟩) ↔
            ∀ c ∈ cs, ¬c.IsUnwritable context default d) := by
  refine ⟨fun c => Condition.not_passes_dual, fun cs hcs => ?_⟩
  have hduals := answer_duals hcs
  have hwritable : (∀ c ∈ cs, ¬c.IsUnwritable context default d) ↔
      ¬∃ e, answer context default d ⟨cs, .all⟩ = .error e := by
    rw [exists_answer_eq_error_iff]
    simp only [not_exists, not_and]
  refine ⟨hduals, ?_⟩
  rw [hwritable, passes_iff, passes_iff, hduals]
  -- without a verdict on the one group there is none on the other, so that neither passes
  cases answer context default d ⟨cs, .all⟩ with
  | error e => exact iff_of_false (by simp [Except.map]) (not_not.mpr ⟨e, rfl⟩)
  | ok passed => cases passed <;> simp [Except.map]

/-- A pattern in a place that cannot be read, a count, and a file that does not exist. -/
theorem passes_duals_iff_of_three :
    let context : Context := ⟨["auth"], ["proj"], "shop", "auth", false⟩
    let default : Option String := some "a.txt"
    let cs : List Condition :=
      [⟨.patternNotExists, some "x", none, none, some "."⟩,
        ⟨.patternCount, some "aa", some .lessThan, some 3, none⟩,
        ⟨.fileExists, some "b.txt", none, none, none⟩]
    let d : Disk :=
      ⟨[(["proj"], .directory), (["proj", "a.txt"], .file (Text.Utf8.encode "aaaaa".toList))]⟩
    (∀ c ∈ cs, c.IsDeterminate context default d) ∧ ¬Passes context default d ⟨cs, .all⟩ ∧
      Passes context default d ⟨cs.map Condition.dual, .any⟩ := by
  intro context default cs d
  have hcs : ∀ c ∈ cs, c.IsDeterminate context default d := by
    refine List.forall_mem_cons.mpr ⟨?_, List.forall_mem_cons.mpr ⟨?_, ?_⟩⟩
    · exact ⟨_, "x", ⟨rfl, ".", rfl, rfl⟩, by decide⟩
    · exact ⟨_, "aa", "aaaaa".toList, ⟨rfl, "a.txt", rfl, rfl⟩, by decide, by decide +kernel⟩
    · exact List.forall_mem_singleton.mpr ⟨"b.txt", false, rfl, by decide +kernel⟩
  have hfails : answer context default d ⟨cs, .all⟩ = .ok false := by decide +kernel
  have hwritable : ∀ c ∈ cs, ¬c.IsUnwritable context default d := by
    intro c hc hunwritable
    obtain ⟨e, he⟩ := exists_answer_eq_error_iff.mpr ⟨c, hc, hunwritable⟩
    rw [hfails] at he
    cases he
  have hnot : ¬Passes context default d ⟨cs, .all⟩ := by
    rw [passes_iff, hfails]
    rintro ⟨⟩
  obtain ⟨-, hiff⟩ := (passes_duals_iff context default d).2 cs hcs
  exact ⟨hcs, hnot, (hiff.mpr hwritable).mpr hnot⟩

/-- The number of occurrences in a file is asked to be one that has too many digits: neither this
condition has a verdict nor the one that asks for any other number. -/
theorem not_passes_duals_iff :
    let context : Context := ⟨[], ["proj"], "shop", "auth", false⟩
    let default : Option String := some "a.txt"
    let c : Condition :=
      ⟨.patternCount, some "x", none, some (Number.tenTo Text.maxDigits), none⟩
    let d : Disk := ⟨[(["proj"], .directory), (["proj", "a.txt"], .file [120])]⟩
    c.IsDeterminate context default d ∧
      ¬(Passes context default d ⟨[c.dual], .any⟩ ↔ ¬Passes context default d ⟨[c], .all⟩) := by
  intro context default c d
  have hread : d.readText (context.resolve "a.txt") = .ok ['x'] := by decide +kernel
  have hdeterminate : c.IsDeterminate context default d :=
    ⟨_, "x", ['x'], ⟨rfl, "a.txt", rfl, rfl⟩, by decide, hread⟩
  have hlong : Number.tenTo Text.maxDigits ≤ (c.count.getD 0).natAbs :=
    (Int.natAbs_natCast (Number.tenTo Text.maxDigits)).ge
  have hunwritable : c.IsUnwritable context default d :=
    ⟨rfl, rfl, hlong, "a.txt", ['x'], rfl, Disk.textIfAny_of_readText hread⟩
  obtain ⟨e, he⟩ : ∃ e, answer context default d ⟨[c], .all⟩ = .error e :=
    exists_answer_eq_error_iff.mpr ⟨c, List.mem_singleton_self c, hunwritable⟩
  have hdual := answer_duals (List.forall_mem_singleton.mpr hdeterminate)
  rw [List.map_singleton, he] at hdual
  refine ⟨hdeterminate, fun hiff => ?_⟩
  have hnot : ¬Passes context default d ⟨[c], .all⟩ := by
    rw [passes_iff, he]
    rintro ⟨⟩
  have hpasses := passes_iff.mp (hiff.mpr hnot)
  rw [hdual] at hpasses
  cases hpasses

end ConditionGroup

end Scaffold
