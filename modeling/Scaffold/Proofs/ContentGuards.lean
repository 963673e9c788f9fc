import Scaffold.Proofs.BatchContainment
import Scaffold.Proofs.DiskAgreement
import Scaffold.Proofs.ReadableFile

/-!
# Guards that look into the file

A guard that finds a pattern in the instruction's own file, or counts it there, passes only if the
file can be read. A file that can be read can also be written and removed, so that nothing is left
that could go wrong with the change. What can go wrong is the guard: a count may have too many digits
for the reason to be written.
-/

namespace Scaffold

namespace Disk

variable {d : Disk} {p : Path} {t : List Char}

/-- What leads to a file ends in its name. -/
lemma endsUpward_of_readText (h : d.readText p = .ok t) : p.endsUpward = false := by
  obtain ⟨bytes, hfind⟩ := find?_of_readText h
  obtain ⟨hlocate, hentry⟩ := find?_eq_some_iff.mp hfind
  rw [Bool.eq_false_iff]
  intro hup
  obtain ⟨q, rfl⟩ := Path.exists_child_of_endsUpward hup
  -- the path goes up from a directory to one above it
  have hparent : (q.child "..").parent.Passes q.location := by
    rw [Path.parent_child]
    exact q.passes_location
  have habove : d.entry? q.location.dropLast = some .directory :=
    entry?_above_of_locate hlocate hparent (List.dropLast_prefix _)
  rw [Path.location_child, if_pos rfl, habove] at hentry
  cases hentry

lemma removeFile_of_readText (h : d.readText p = .ok t) :
    d.removeFile p = .ok (d.without (· = p.location)) := by
  obtain ⟨bytes, hfind⟩ := find?_of_readText h
  obtain ⟨hlocate, hentry⟩ := find?_eq_some_iff.mp hfind
  rw [removeFile, hlocate]
  simp only [endsUpward_of_readText h, Bool.false_eq_true, if_false, hentry]

end Disk

/-- Every change of a file that can be read is made. -/
theorem Change.exists_apply_eq_ok {d : Disk} {p : Path} {t : List Char} (h : d.readText p = .ok t)
    (c : Change) : ∃ changed d', c.apply p d = (.ok changed, d') := by
  cases c with
  | create content =>
    refine ⟨true, d.put p.location (.file (Text.Utf8.encode content)), ?_⟩
    simp only [apply, write, Disk.saveText_of_readText h]
  | delete =>
    refine ⟨true, d.without (· = p.location), ?_⟩
    simp only [apply, remove, Disk.holds_of_readText h, Disk.removeFile_of_readText h]
  | edit f => exact ⟨_, _, Change.apply_edit h f⟩

/-! ### Conditions on the instruction's own file -/

/-- A condition looks for a pattern, or counts it, in the file at a path, which it names or leaves to
the instruction. -/
structure Condition.LooksInto (path : String) (c : Condition) : Prop where
  kind : c.kind = .patternExists ∨ c.kind = .patternCount
  target : given? c.target = none ∨ c.target = some path

section Guard

variable {context : Context} {i : Instruction} {d : Disk} {g : ConditionGroup} {c : Condition}

/-- A condition that names the path given, or leaves it to the default one, looks there. -/
lemma Condition.eq_of_searched? {path target : String}
    (htarget : given? c.target = none ∨ c.target = some path)
    (h : c.searched? (some path) = some target) : target = path := by
  have hor : (given? c.target).or (some path) = some path := by
    rcases htarget with hnone | hsome
    · rw [hnone, Option.none_or]
    · rw [hsome]
      cases hgiven : given? (some path) with
      | none => rfl
      | some path' => exact (given?_eq_some_iff.mp hgiven).1.symm
  rw [searched?, hor] at h
  exact (Option.some.inj (given?_eq_some_iff.mp h).1).symm

/-- A condition that looks into a file and passes has found the file readable. -/
lemma Condition.LooksInto.exists_readText {path : String} (hlooks : c.LooksInto path)
    (h : c.Passes context (some path) d) :
    ∃ pattern t, c.value = some pattern ∧ pattern ≠ "" ∧
      d.readText (context.resolve path) = .ok t ∧
      c.Searches context (some path) (context.resolve path) pattern := by
  obtain ⟨target, pattern, t, htarget, hvalue, hpattern, ht⟩ := h.exists_readText hlooks.kind
  obtain rfl := Condition.eq_of_searched? hlooks.target htarget
  exact ⟨pattern, t, hvalue, hpattern, ht, hvalue, target, htarget, rfl⟩

lemma ConditionGroup.Passes.of_mem {default : Option String} (h : g.Passes context default d)
    (hall : g.logic = .all) (hc : c ∈ g.conditions) : c.Passes context default d := by
  obtain ⟨v, hjudge, hpassed⟩ := h
  obtain ⟨hverdicts, hjoin, -⟩ := (ConditionGroup.judge_eq_ok_iff context default d).mp hjudge
  rw [hjoin, hall] at hpassed
  obtain ⟨verdict, hverdict, hc⟩ := exists_mem_of_mapM_eq_ok (mapM_eq_ok_iff.mpr hverdicts) hc
  exact ⟨verdict, hc, List.all_eq_true.mp hpassed verdict hverdict⟩

lemma Instruction.passes_of_judge {guard : Option GroupVerdict} (hg : i.condition = some g)
    (h : i.judge context d = .ok guard) (hpassed : guard.all GroupVerdict.passed = true) :
    g.Passes context (some i.path) d := by
  obtain ⟨v, rfl, hv⟩ := guard_of_some h hg
  exact ⟨v, hv, hpassed⟩

/-- An instruction whose guard looks into its file is passed over, or its change is made, if there is
a verdict on the guard at all. -/
lemma Instruction.attempt_cases_of_looksInto (hlacking : i.lacking = []) (hg : i.condition = some g)
    (hall : g.logic = .all) (hc : c ∈ g.conditions) (hlooks : c.LooksInto i.path)
    {guard : Option GroupVerdict} (hjudge : i.judge context d = .ok guard) :
    i.attempt context d = (.ok ⟨guard, .skipped⟩, d) ∨
      ∃ changed d', g.Passes context (some i.path) d ∧
        i.change.apply (context.resolve i.path) d = (.ok changed, d') ∧
        i.attempt context d = (.ok ⟨guard, .executed changed⟩, d') := by
  simp only [attempt, hjudge]
  cases hpassed : guard.all GroupVerdict.passed with
  | false => exact .inl rfl
  | true =>
    have hpasses := passes_of_judge hg hjudge hpassed
    obtain ⟨_, t, -, -, ht, -⟩ := hlooks.exists_readText (hpasses.of_mem hall hc)
    obtain ⟨changed, d', hchange⟩ := Change.exists_apply_eq_ok ht i.change
    refine .inr ⟨changed, d', hpasses, hchange, ?_⟩
    simp only [if_true, tryChange, hlacking, hchange]

/-- A replacement whose guard has found the pattern in the file replaces something. -/
lemma Instruction.changed_of_passes {pattern : String} (haction : i.action = .replaceContent)
    (hpattern : i.pattern = some pattern) (hc : c.LooksInto i.path) (hkind : c.kind = .patternExists)
    (hvalue : c.value = some pattern) (hpasses : c.Passes context (some i.path) d) {changed : Bool}
    {d' : Disk} (h : i.change.apply (context.resolve i.path) d = (.ok changed, d')) :
    changed = true := by
  obtain ⟨pattern', t, hvalue', hne, ht, hsearch⟩ := hc.exists_readText hpasses
  obtain rfl : pattern = pattern' := Option.some.inj (hvalue.symm.trans hvalue')
  have hfound := (Condition.passes_patternExists_iff hkind hsearch hne ht).mp hpasses
  have hchange : i.change = .edit (Edit.replaceContent pattern.toList (textOf i.replacement)) := by
    simp only [change, haction, hpattern]
    rfl
  rw [hchange, Change.apply_edit ht, Edit.replaceContent, if_pos hfound] at h
  exact (Except.ok.inj (Prod.mk.inj h).1).symm

/-- An instruction without a verdict on its guard comes to no report. -/
lemma Instruction.outcome_apply_of_judge_error (log : Option Log.Store) (index : Int) {s : Site}
    {e : Text.Unwritable} (h : i.judge context s.disk = .error e) :
    (i.apply log context index).outcome s = (.error (.unwritable e), s) := by
  have hattempt : i.attempt context s.disk = (.error e, s.disk) := by simp only [attempt, h]
  rw [apply_eq, Job.outcome_bind, Job.outcome_onDisk, hattempt]
  rfl

end Guard

/-- An instruction that lacks no field, whose guard asks for all of its conditions and looks into the
instruction's own file, comes to a report, so that it is executed or skipped, exactly if the reasons
of all conditions can be written, whatever the action and whatever there is at the path. The log has
to take the record. A replacement whose guard asks for the pattern in that file has changed the file
whenever it is executed. -/
theorem Instruction.exists_report_iff_of_looksInto {log : Option Log.Store} {context : Context}
    {index : Int} {i : Instruction} {s : Site} {g : ConditionGroup} {c : Condition}
    (hlacking : i.lacking = []) (hg : i.condition = some g) (hall : g.logic = .all)
    (hc : c ∈ g.conditions) (hlooks : c.LooksInto i.path)
    (hnoted : i.CanBeNoted log context index s) :
    ((∃ r, ((i.apply log context index).outcome s).1 = .ok r) ↔
        ∀ c' ∈ g.conditions, ¬c'.IsUnwritable context (some i.path) s.disk) ∧
      (i.action = .replaceContent →
        (∃ c' ∈ g.conditions, c'.LooksInto i.path ∧ c'.kind = .patternExists ∧
          c'.value = i.pattern) →
        ∀ r, ((i.apply log context index).outcome s).1 = .ok r → r.outcome = .executed →
          r.changed = true) := by
  have hwritable : (∀ c' ∈ g.conditions, ¬c'.IsUnwritable context (some i.path) s.disk) ↔
      ¬∃ e, i.judge context s.disk = .error e := by
    rw [judge_error_iff]
    simp only [hg, Option.some.injEq, exists_eq_left', not_exists, not_and]
  rw [hwritable]
  cases hjudge : i.judge context s.disk with
  | error e =>
    rw [outcome_apply_of_judge_error log index hjudge]
    refine ⟨iff_of_false ?_ (not_not.mpr ⟨e, rfl⟩), fun _ _ r hr => ?_⟩
    · rintro ⟨r, hr⟩
      cases hr
    · cases hr
  | ok guard =>
    have hverdict : ¬∃ e, (Except.ok guard : Except Text.Unwritable _) = .error e := by
      rintro ⟨e, he⟩
      cases he
    rcases attempt_cases_of_looksInto hlacking hg hall hc hlooks hjudge with
      hattempt | ⟨changed, d', hpasses, hchange, hattempt⟩
    · obtain ⟨hash, s', hout⟩ := exists_outcome_apply_eq log context i hattempt hnoted
      rw [hout]
      refine ⟨iff_of_true ⟨_, rfl⟩ hverdict, fun _ _ r hr hexecuted => ?_⟩
      rw [← Except.ok.inj hr] at hexecuted
      cases hexecuted
    · obtain ⟨hash, s', hout⟩ := exists_outcome_apply_eq log context i hattempt hnoted
      rw [hout]
      refine ⟨iff_of_true ⟨_, rfl⟩ hverdict, fun haction hpattern r hr _ => ?_⟩
      obtain ⟨c', hc', hlooks', hkind, hvalue⟩ := hpattern
      have hc'passes := hpasses.of_mem hall hc'
      obtain ⟨pattern, -, hgiven, -⟩ := hlooks'.exists_readText hc'passes
      rw [← Except.ok.inj hr]
      exact changed_of_passes haction (hvalue ▸ hgiven) hlooks' hkind hgiven hc'passes hchange

/-- A replacement that is guarded by its own pattern, with a log beside the project. -/
theorem Instruction.exists_report_iff_of_looksInto_of_two :
    let store : Log.Store := ⟨["logs"]⟩
    let context : Context := ⟨[], ["proj"], "shop", "auth", false⟩
    let c : Condition := ⟨.patternExists, some "x", none, none, none⟩
    let c' : Condition := ⟨.patternCount, some "x", some .lessThan, some 5, some "a.txt"⟩
    let i : Instruction :=
      ⟨"a.txt", .replaceContent, none, some "x", some "", none, none, none, some ⟨[c', c], .all⟩⟩
    let s : Site :=
      ⟨⟨[(["proj"], .directory), (["proj", "a.txt"], .file [120, 10, 120])]⟩, ⟨1000, 1⟩, []⟩
    i.lacking = [] ∧ c.LooksInto i.path ∧ i.CanBeNoted (some store) context 0 s ∧
      ∃ r, ((i.apply (some store) context 0).outcome s).1 = .ok r ∧ r.outcome = .executed ∧
        r.changed = true := by
  intro store context c c' i s
  have hlacking : i.lacking = [] := by decide
  have hlooks : c.LooksInto i.path := ⟨.inl rfl, .inl rfl⟩
  have hnoted : i.CanBeNoted (some store) context 0 s := by decide +kernel
  have hmem : c ∈ [c', c] := List.mem_cons_of_mem _ List.mem_cons_self
  obtain ⟨hreport, hchanged⟩ := exists_report_iff_of_looksInto (g := ⟨[c', c], .all⟩) hlacking rfl
    rfl hmem hlooks hnoted
  have hwritable : ∀ c'' ∈ [c', c], ¬c''.IsUnwritable context (some i.path) s.disk := by
    refine List.forall_mem_cons.mpr ⟨?_, List.forall_mem_singleton.mpr ?_⟩
    · rintro ⟨-, -, hlong, -⟩
      exact absurd hlong (by decide +kernel)
    · rintro ⟨hkind, -⟩
      cases hkind
  obtain ⟨r, hr⟩ := hreport.mpr hwritable
  have hexecuted : ((i.apply (some store) context 0).outcome s).1.toOption.map Report.outcome =
      some .executed := by decide +kernel
  rw [hr] at hexecuted
  have hr' : r.outcome = .executed := Option.some.inj hexecuted
  exact ⟨hlacking, hlooks, hnoted, r, hr, hr',
    hchanged rfl ⟨c, hmem, hlooks, rfl, rfl⟩ r hr hr'⟩

/-- A file is to be appended to if a pattern occurs less often than a number of too many digits: the
guard has no verdict, and the instruction comes to no report. -/
theorem Instruction.not_exists_report_of_looksInto :
    let context : Context := ⟨[], ["proj"], "shop", "auth", false⟩
    let c : Condition :=
      ⟨.patternCount, some "x", some .lessThan, some (Number.tenTo Text.maxDigits), none⟩
    let i : Instruction :=
      ⟨"a.txt", .appendToFile, some "y", none, none, none, none, none, some ⟨[c], .all⟩⟩
    let s : Site :=
      ⟨⟨[(["proj"], .directory), (["proj", "a.txt"], .file [120])]⟩, ⟨1000, 1⟩, []⟩
    i.lacking = [] ∧ c.LooksInto i.path ∧ i.CanBeNoted none context 0 s ∧
      ¬∃ r, ((i.apply none context 0).outcome s).1 = .ok r := by
  intro context c i s
  have hlooks : c.LooksInto i.path := ⟨.inr rfl, .inl rfl⟩
  have hnoted : i.CanBeNoted none context 0 s := fun a d _ => ⟨none, { s with disk := d }, rfl⟩
  have hread : s.disk.readText (context.resolve i.path) = .ok ['x'] := by decide +kernel
  have hlong : Number.tenTo Text.maxDigits ≤ (c.count.getD 0).natAbs :=
    (Int.natAbs_natCast (Number.tenTo Text.maxDigits)).ge
  have hunwritable : c.IsUnwritable context (some i.path) s.disk :=
    ⟨rfl, rfl, hlong, "a.txt", ['x'], rfl, Disk.textIfAny_of_readText hread⟩
  obtain ⟨e, he⟩ := judge_error_iff.mpr ⟨⟨[c], .all⟩, rfl, c, List.mem_singleton_self c, hunwritable⟩
  refine ⟨rfl, hlooks, hnoted, ?_⟩
  rintro ⟨r, hr⟩
  rw [outcome_apply_of_judge_error none 0 he] at hr
  cases hr

end Scaffold
