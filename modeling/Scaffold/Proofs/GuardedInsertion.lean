import Scaffold.Proofs.ContentGuards
import Scaffold.Proofs.LiteralEdits
import Scaffold.Proofs.OppositeConditions
import Scaffold.Proofs.SuccessiveEdits

/-!
# Insertions that are made once

An insertion that is guarded by the absence of its own content. What it has written has the content
in it, whatever the action. So the guard lets it through again only if the content is not read back
as it was written, and that is the case exactly if there is a carriage return in it.
-/

namespace Scaffold

open Text

/-! ### The content in what was written -/

lemma Edit.PutsIn.isInfix {content t t' : List Char} (h : PutsIn content t t') :
    content <:+: t' := by
  obtain ⟨before, block, after, hblock, -, rfl⟩ := h
  have hcontent : content <:+: block := by
    rcases hblock with rfl | rfl | rfl
    · exact List.infix_refl _
    · exact (List.suffix_cons _ _).isInfix
    · exact (List.prefix_append _ _).isInfix
  exact hcontent.trans (List.infix_append before block after)

/-- A text that was written with a content in it has the content when it is read back exactly if
there is no carriage return in the content. -/
lemma contains_unifyLineEnds_iff {content t : List Char} (hwritten : content <:+: t)
    (hreturn : '\r' ∉ content → '\r' ∉ t) :
    contains content (unifyLineEnds t) = true ↔ '\r' ∉ content := by
  rw [contains_iff]
  constructor
  · intro h hmem
    exact not_mem_unifyLineEnds t (h.subset hmem)
  · intro hcontent
    rwa [unifyLineEnds_of_not_mem (hreturn hcontent)]

namespace Change

variable {p : Path} {d d' : Disk} {t : List Char}

lemma readText_of_write {changed : Bool} (h : write p t d = (.ok changed, d')) :
    d'.readText p = .ok (unifyLineEnds t) := by
  rw [write] at h
  rcases hsave : d.saveText p t with ⟨e | u, d₁⟩
  · rw [hsave] at h
    cases e <;> cases h
  · rw [hsave] at h
    obtain rfl := (Prod.mk.inj h).2
    exact Disk.readText_of_saveText hsave

/-- An edit that has been made was made of a text without a carriage return. -/
lemma readText_of_edit {f : List Char → Option (List Char)}
    (h : (edit f).apply p d = (.ok true, d')) :
    ∃ t t', '\r' ∉ t ∧ f t = some t' ∧ d'.readText p = .ok (unifyLineEnds t') := by
  obtain ⟨u, t', hread, hf, hwrite⟩ := exists_write_of_edit h
  obtain ⟨bytes, t, -, -, rfl⟩ := read_eq_ok hread
  exact ⟨unifyLineEnds t, t', not_mem_unifyLineEnds t, hf, readText_of_write hwrite⟩

end Change

/-- The actions that put the content of an instruction into its file. -/
def Action.putsContent : List Action :=
  [.createFile, .insertImport, .insertAfter, .insertBefore, .appendToFile]

section Insertion

variable {context : Context} {i : Instruction} {p : Path} {d d' : Disk}

lemma Instruction.change_of_putsContent (haction : i.action ∈ Action.putsContent) :
    i.change = .create (textOf i.content) ∨
      ∃ f, i.change = .edit f ∧ ∀ t t', f t = some t' → Edit.PutsIn (textOf i.content) t t' := by
  simp only [Action.putsContent, List.mem_cons, List.not_mem_nil, or_false] at haction
  unfold change
  rcases haction with h | h | h | h | h <;> rw [h]
  · exact .inl rfl
  · exact .inr ⟨_, rfl, fun t t' ht => Option.some.inj ht ▸ Edit.putsIn_insertImport _ _⟩
  · exact .inr ⟨_, rfl, fun t t' ht => (Edit.putsLineIn_of_insertBeside ht).putsIn⟩
  · exact .inr ⟨_, rfl, fun t t' ht => (Edit.putsLineIn_of_insertBeside ht).putsIn⟩
  · exact .inr ⟨_, rfl, fun t t' ht => Option.some.inj ht ▸ Edit.putsIn_append _ _⟩

/-- After an insertion the content is found in the file exactly if it has no carriage return. -/
lemma Instruction.contains_of_putsContent (haction : i.action ∈ Action.putsContent)
    (h : i.change.apply p d = (.ok true, d')) :
    ∃ t, d'.readText p = .ok t ∧
      (contains (textOf i.content) t = true ↔ '\r' ∉ textOf i.content) := by
  rcases change_of_putsContent haction with hcreate | ⟨f, hedit, hputs⟩
  · rw [hcreate, Change.apply] at h
    exact ⟨_, Change.readText_of_write h, contains_unifyLineEnds_iff (List.infix_refl _) id⟩
  · rw [hedit] at h
    obtain ⟨t, t', ht, hf, hread⟩ := Change.readText_of_edit h
    have hputs := hputs t t' hf
    exact ⟨_, hread, contains_unifyLineEnds_iff hputs.isInfix (hputs.return_not_mem ht)⟩

end Insertion

/-! ### The guard -/

section Guard

variable {context : Context} {default : Option String} {d : Disk} {c : Condition} {p : Path}
  {pattern : String} {t : List Char} {i : Instruction} {logic : Logic}

/-- A pattern is missed in a file that can be read exactly if the text does not contain it. -/
lemma Condition.answer_patternNotExists (hkind : c.kind = .patternNotExists)
    (hsearch : c.Searches context default p pattern) (hpattern : pattern ≠ "")
    (h : d.readText p = .ok t) :
    c.answer context default d = .ok (!contains pattern.toList t) := by
  obtain ⟨reason, hjudge⟩ := hsearch.judgePattern_eq hpattern h false
  rw [answer, judge, hkind]
  simp only [hjudge, Except.map]
  cases contains pattern.toList t <;> rfl

lemma ConditionGroup.answer_singleton (context : Context) (default : Option String) (d : Disk)
    (c : Condition) (logic : Logic) :
    answer context default d ⟨[c], logic⟩ = c.answer context default d := by
  rw [answer_cons]
  cases c.answer context default d with
  | error e => rfl
  | ok passed => cases logic <;> cases passed <;> rfl

/-- The guard of an instruction with a single condition comes to what the condition comes to. -/
lemma Instruction.judge_of_answer (hguard : i.condition = some ⟨[c], logic⟩) {passed : Bool} :
    c.answer context (some i.path) d = .ok passed ↔
      ∃ v, i.judge context d = .ok (some v) ∧ v.passed = passed := by
  rw [← ConditionGroup.answer_singleton context _ d c logic, ConditionGroup.answer, map_eq_ok_iff,
    judge, hguard]
  constructor
  · rintro ⟨v, hv, hpassed⟩
    exact ⟨v, map_eq_ok_iff.mpr ⟨v, hv, rfl⟩, hpassed⟩
  · rintro ⟨v, hv, hpassed⟩
    obtain ⟨v', hv', heq⟩ := map_eq_ok_iff.mp hv
    obtain rfl := Option.some.inj heq
    exact ⟨v', hv', hpassed⟩

end Guard

/-! ### The second time -/

/-- An instruction that puts its content into its file if the content is not there. -/
structure Instruction.IsGuardedInsertion (c : String) (i : Instruction) : Prop where
  action : i.action ∈ Action.putsContent
  content : i.content = some c
  guard : ∃ condition logic, i.condition = some ⟨[condition], logic⟩ ∧
    condition.kind = .patternNotExists ∧ condition.value = some c ∧
      Scaffold.given? condition.target = none

section Again

variable {log : Option Log.Store} {context : Context} {index : Int} {i : Instruction} {c : String}
  {s s' : Site} {r : Report} {d : Disk}

/-- The guard of an insertion that has been let through once looks into the file of the insertion, and
it lets the insertion through again exactly if the content is not there. -/
lemma Instruction.IsGuardedInsertion.judge_of_readText (hi : i.IsGuardedInsertion c)
    {guard : Option GroupVerdict} (hjudge : i.judge context d = .ok guard)
    (hpassed : guard.all GroupVerdict.passed = true) {d' : Disk} {t : List Char}
    (hread : d'.readText (context.resolve i.path) = .ok t) :
    ∃ v, i.judge context d' = .ok (some v) ∧ v.passed = !contains c.toList t := by
  obtain ⟨-, -, condition, logic, hguard, hkind, hvalue, htarget⟩ := hi
  obtain ⟨v, rfl, hv⟩ := guard_of_some hjudge hguard
  have hanswer : condition.answer context (some i.path) d = .ok true :=
    (judge_of_answer hguard).mpr ⟨v, hjudge, hpassed⟩
  have hdeterminate := (Condition.passes_iff.mpr hanswer).isDeterminate
  unfold Condition.IsDeterminate at hdeterminate
  simp only [hkind] at hdeterminate
  -- what has passed has a file to look into, and that can only be the one of the instruction
  obtain ⟨p, pattern, ⟨hpattern, target, hsearched, -⟩, hne⟩ := hdeterminate
  obtain rfl := Condition.eq_of_searched? (.inl htarget) hsearched
  obtain rfl : c = pattern := Option.some.inj (hvalue.symm.trans hpattern)
  exact (judge_of_answer hguard).mp
    (Condition.answer_patternNotExists hkind ⟨hvalue, i.path, hsearched, rfl⟩ hne hread)

lemma Instruction.tryChange_ne_skipped : (i.tryChange context d).1 ≠ .skipped := by
  rw [tryChange]
  split
  · split <;> simp
  · simp

lemma Attempt.ending_of_skipped {a : Attempt} {hash : Option String} (h : .ok r = a.result i hash)
    (hskipped : r.outcome = .skipped) : a.ending = .skipped := by
  rw [result] at h
  split at h
  · assumption
  · obtain rfl := Except.ok.inj h
    cases hskipped
  · cases h
  · cases h

/-- An instruction whose attempt changes nothing changes only places of the log. -/
lemma changesOnly_of_attempt {result : Result}
    (h : (i.apply log context index).outcome s = (result, s')) {x : Except Unwritable Attempt}
    (hattempt : i.attempt context s.disk = (x, s.disk)) :
    Disk.ChangesOnly (fun l => ∃ store, log = some store ∧ store.Owns s.disk l) s.disk s'.disk := by
  obtain ⟨x', d', hattempt', hdisk, -⟩ := outcome_apply_cases h
  obtain ⟨rfl, rfl⟩ := Prod.mk.inj (hattempt.symm.trans hattempt')
  intro l
  rcases hdisk with hdisk | ⟨store, record, hstore, hhash, hdisk⟩
  · exact .inl (by rw [hdisk])
  · rw [hdisk]
    exact (save_changesOnly (Log.isHexDigit_of_hash_eq hhash) (fun _ hl => hl) l).imp_right
      fun howns => ⟨store, hstore, howns⟩

/-- A guarded insertion that has changed its file is skipped when it is carried out again, and then
nothing changes but places of the log, exactly if there is no carriage return in the content. The
first record must not be kept in the file itself, and the log has to take the second one. -/
theorem Instruction.skipped_again_iff (hi : i.IsGuardedInsertion c)
    (h : (i.apply log context index).outcome s = (.ok r, s')) (hchanged : r.changed = true)
    (hlog : ∀ store, log = some store → (context.resolve i.path).location ≠
      store.directory.location ++
        [Log.hashOf context.project context.module index s.clock.now ++ ".json"])
    (hnoted : i.CanBeNoted log context index s') :
    (∃ r' s'', (i.apply log context index).outcome s' = (.ok r', s'') ∧ r'.outcome = .skipped ∧
        Disk.ChangesOnly (fun l => ∃ store, log = some store ∧ store.Owns s'.disk l) s'.disk
          s''.disk) ↔
      '\r' ∉ c.toList := by
  obtain ⟨x, d, hattempt, -, ⟨a, hash, rfl, hresult⟩ | ⟨e, he, -⟩⟩ := outcome_apply_cases h
  swap
  · cases he
  have hexecuted := executed_of_result hresult hchanged
  obtain ⟨-, hchange⟩ := attempt_executed hattempt hexecuted
  obtain ⟨hjudge, ⟨-, hskipped, -⟩ | ⟨hpassed, -⟩⟩ := attempt_eq_ok hattempt
  · rw [hskipped] at hexecuted
    cases hexecuted
  obtain ⟨t, hread, hcontains⟩ := contains_of_putsContent hi.action hchange
  rw [show textOf i.content = c.toList by rw [hi.content]; rfl] at hcontains
  have hread' := readText_of_attempt h hattempt hread hlog
  obtain ⟨v, hjudge', hv⟩ := hi.judge_of_readText hjudge hpassed hread'
  -- what is left is whether the guard finds the content in what was written
  rw [← hcontains]
  constructor
  · rintro ⟨r', s'', hagain, hskipped, -⟩
    obtain ⟨x, d', hattempt', -, ⟨a', hash', rfl, hresult'⟩ | ⟨e, he, -⟩⟩ :=
      outcome_apply_cases hagain
    swap
    · cases he
    have hending := Attempt.ending_of_skipped hresult' hskipped
    obtain ⟨hjudge'', ⟨hfailed, -, -⟩ | ⟨-, htried⟩⟩ := attempt_eq_ok hattempt'
    · have hguard : some v = a'.guard := Except.ok.inj (hjudge'.symm.trans hjudge'')
      rw [← hguard] at hfailed
      simpa [hv] using hfailed
    · exact absurd (hending ▸ congrArg Prod.fst htried) tryChange_ne_skipped
  · intro hfound
    rw [hfound] at hv
    have hattempt' : i.attempt context s'.disk = (.ok ⟨some v, .skipped⟩, s'.disk) := by
      simp only [attempt, hjudge', Option.all_some, hv, Bool.not_true, Bool.false_eq_true, if_false]
    obtain ⟨hash', s'', hagain⟩ := exists_outcome_apply_eq log context i hattempt' hnoted
    exact ⟨_, s'', hagain, rfl, changesOnly_of_attempt hagain hattempt'⟩

end Again

/-- Two lines are put in above a line, with a log beside the project. -/
theorem Instruction.skipped_again_iff_of_twoLines :
    let store : Log.Store := ⟨["logs"]⟩
    let context : Context := ⟨[], ["proj"], "shop", "auth", false⟩
    let c := "u\nv"
    let guard : ConditionGroup := ⟨[⟨.patternNotExists, some c, none, none, none⟩], .any⟩
    let i : Instruction :=
      ⟨"a.txt", .insertBefore, some c, some "m", none, none, none, none, some guard⟩
    let s : Site :=
      ⟨⟨[(["proj"], .directory), (["proj", "a.txt"], .file (Text.Utf8.encode "x\r\nm".toList))]⟩,
        ⟨1000, 1⟩, []⟩
    let out := (i.apply (some store) context 0).outcome s
    i.IsGuardedInsertion c ∧ out.1.toOption.map Report.changed = some true ∧
      i.CanBeNoted (some store) context 0 out.2 ∧
      ∃ r' s'', (i.apply (some store) context 0).outcome out.2 = (.ok r', s'') ∧
        r'.outcome = .skipped ∧ Disk.ChangesOnly (store.Owns out.2.disk) out.2.disk s''.disk := by
  intro store context c guard i s out
  have hi : i.IsGuardedInsertion c := ⟨by decide, rfl, _, .any, rfl, rfl, rfl, rfl⟩
  have hreport : out.1.toOption.map Report.changed = some true := by decide +kernel
  have hnoted : i.CanBeNoted (some store) context 0 out.2 := by decide +kernel
  refine ⟨hi, hreport, hnoted, ?_⟩
  rcases hout : out with ⟨e | r, s'⟩
  · rw [hout] at hreport
    cases hreport
  · rw [hout] at hreport hnoted
    obtain ⟨r', s'', hagain, hskipped, honly⟩ := (skipped_again_iff hi hout (Option.some.inj hreport)
      (by rintro _ ⟨⟩; decide +kernel) hnoted).mpr (by decide)
    refine ⟨r', s'', hagain, hskipped, fun l => (honly l).imp_right ?_⟩
    rintro ⟨_, ⟨⟩, howns⟩
    exact howns

end Scaffold
