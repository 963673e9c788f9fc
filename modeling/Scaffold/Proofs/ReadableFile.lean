import Scaffold.Proofs.DirectoryListing
import Scaffold.Proofs.InstructionFrame

/-!
# Files that can be read

A file that can be read can also be written: the path leads to it through directories that are
there, so that nothing has to be made and nothing stands in the way. What an edit of such a file
comes to, and what a condition finds in it, is therefore settled by its text alone. An edit is
followed from the text through the change and the attempt to the report.
-/

namespace Scaffold

open Text

namespace Disk

variable {d : Disk} {p : Path} {names : List String} {l l' : Location} {t : List Char}

/-- All but the last of names that lead anywhere lead to a directory, if all on the way to the start
are directories. -/
lemma walk_dropLast (hl : ∀ q, q <+: l → d.entry? q = some .directory)
    (h : d.walk l names = .ok l') :
    ∃ parent, d.walk l names.dropLast = .ok parent ∧ d.entry? parent = some .directory := by
  induction names generalizing l with
  | nil => exact ⟨l, rfl, hl l (List.prefix_refl l)⟩
  | cons name rest ih =>
    cases rest with
    | nil => exact ⟨l, rfl, hl l (List.prefix_refl l)⟩
    | cons next more =>
      rw [List.dropLast_cons_cons]
      rcases walk_cons_eq_ok_iff.mp h with ⟨hup, h⟩ | ⟨hup, hsize, hdir, h⟩
      · rw [hup, walk_up]
        exact ih (fun q hq => hl q (hq.trans (List.dropLast_prefix l))) h
      · have hthere := hdir (List.cons_ne_nil next more)
        have hbelow : ∀ q, q <+: l ++ [name] → d.entry? q = some .directory := by
          intro q hq
          rcases List.prefix_concat_iff.mp hq with rfl | hq
          · exact hthere
          · exact hl q hq
        rw [walk_into hup hsize fun _ => hthere]
        exact ih hbelow h

lemma utf8ByteSize_text_parent (h : p.text.utf8ByteSize ≤ maxPathSize) :
    p.parent.text.utf8ByteSize ≤ maxPathSize := by
  rw [Path.text, Path.parent]
  split
  · decide +kernel
  · next hparent =>
    have hp : ¬(p.root = .here ∧ p.names = []) := by
      rintro ⟨hroot, hnil⟩
      exact hparent ⟨hroot, by rw [hnil, List.dropLast_nil]⟩
    rw [Path.text, if_neg hp, String.utf8ByteSize_append] at h
    rw [String.utf8ByteSize_append]
    by_cases hdrop : p.names.dropLast = []
    · have hempty : ("/".intercalate p.names.dropLast).utf8ByteSize = 0 := by
        rw [hdrop]
        rfl
      dsimp only
      omega
    · have hne : p.names ≠ [] := fun hnil => hdrop (by rw [hnil, List.dropLast_nil])
      have hsize := utf8ByteSize_intercalate_append hdrop (p.names.getLast hne)
      rw [List.dropLast_concat_getLast hne] at hsize
      dsimp only
      omega

/-- A path that leads anywhere has its last name in a directory that is there. -/
lemma leadsToDirectory_parent (h : d.locate p = .ok l) : d.LeadsToDirectory p.parent := by
  obtain ⟨hnull, hsize, hwalk⟩ := locate_eq_ok_iff.mp h
  obtain ⟨parent, hparent, hdir⟩ := walk_dropLast (fun q hq => entry?_of_prefix_nil hq) hwalk
  have hlocate : d.locate p.parent = .ok parent :=
    locate_eq_ok_iff.mpr ⟨hasNull_parent hnull, utf8ByteSize_text_parent hsize, hparent⟩
  obtain rfl := eq_location_of_locate hlocate
  exact ⟨hlocate, hdir⟩

lemma find?_of_readText (h : d.readText p = .ok t) :
    ∃ bytes, d.find? p = .ok (some (.file bytes)) := by
  obtain ⟨bytes, -, hentry, -, -⟩ := readText_eq_ok h
  refine ⟨bytes, find?_eq_some_iff.mpr ⟨?_, hentry⟩⟩
  cases hlocate : d.locate p with
  | ok l => rw [eq_location_of_locate hlocate]
  | error e => simp [readText, readFile, lookup, hlocate] at h

/-- A file that can be read is written in place. -/
lemma saveText_of_readText (h : d.readText p = .ok t) (t' : List Char) :
    d.saveText p t' = (.ok (), d.put p.location (.file (Utf8.encode t'))) := by
  obtain ⟨bytes, hfind⟩ := find?_of_readText h
  obtain ⟨hlocate, hentry⟩ := find?_eq_some_iff.mp hfind
  rw [saveText, (leadsToDirectory_parent hlocate).makeDirectories]
  simp only [writeText, writeFile, hlocate, hentry]

lemma textIfAny_of_readText (h : d.readText p = .ok t) : d.textIfAny p = .ok (some t) := by
  rw [textIfAny, holds_of_readText h, h]
  rfl

lemma readText_of_textIfAny (h : d.textIfAny p = .ok (some t)) : d.readText p = .ok t := by
  rw [textIfAny] at h
  split at h
  · cases h
  · cases h
  · obtain ⟨t', ht', heq⟩ := map_eq_ok_iff.mp h
    rw [ht', Option.some.inj heq]

/-- The disk with the text of a file edited, if there was anything to edit. -/
def edited (d : Disk) (p : Path) : Option (List Char) → Disk
  | none => d
  | some t => d.put p.location (.file (Utf8.encode t))

end Disk

/-! ### Edits -/

lemma Change.apply_edit {d : Disk} {p : Path} {t : List Char} (h : d.readText p = .ok t)
    (f : List Char → Option (List Char)) :
    (Change.edit f).apply p d = (.ok (f t).isSome, d.edited p (f t)) := by
  obtain ⟨bytes, hfind⟩ := Disk.find?_of_readText h
  have hread : Change.read p d = .ok t := by
    rw [Change.read, Disk.isFile, hfind]
    simp only [Except.map, h]
  simp only [Change.apply, hread]
  cases f t with
  | none => rfl
  | some t' =>
    simp only [Change.write, Disk.saveText_of_readText h]
    rfl

/-- What an instruction comes to whose edit has a given result: the action reports whether there was
anything to edit, and the disk has the edited text in the place of the old one. The same comes of
the whole instruction if it lacks no field and its guard has passed. -/
structure Instruction.Edits (i : Instruction) (context : Context) (d : Disk)
    (result : Option (List Char)) : Prop where
  action : i.change.apply (context.resolve i.path) d =
    (.ok result.isSome, d.edited (context.resolve i.path) result)
  attempt : ∀ guard, i.lacking = [] → i.judge context d = .ok guard →
    guard.all GroupVerdict.passed = true →
    i.attempt context d =
      (.ok ⟨guard, .executed result.isSome⟩, d.edited (context.resolve i.path) result)
  report : ∀ guard index clock printed, i.lacking = [] → i.judge context d = .ok guard →
    guard.all GroupVerdict.passed = true →
    (i.apply none context index).outcome ⟨d, clock, printed⟩ =
      (.ok ⟨.executed, result.isSome, (guard.map GroupVerdict.results).getD [], none⟩,
        ⟨d.edited (context.resolve i.path) result, clock, printed⟩)

/-- An edit of a file that can be read comes to what it makes of the text. -/
theorem Instruction.edits_of_readText {i : Instruction} {context : Context} {d : Disk}
    {f : List Char → Option (List Char)} {t : List Char} (hchange : i.change = .edit f)
    (h : d.readText (context.resolve i.path) = .ok t) : i.Edits context d (f t) := by
  have haction : i.change.apply (context.resolve i.path) d =
      (.ok (f t).isSome, d.edited (context.resolve i.path) (f t)) := by
    rw [hchange, Change.apply_edit h]
  have hattempt : ∀ guard, i.lacking = [] → i.judge context d = .ok guard →
      guard.all GroupVerdict.passed = true →
      i.attempt context d =
        (.ok ⟨guard, .executed (f t).isSome⟩, d.edited (context.resolve i.path) (f t)) := by
    intro guard hlacking hjudge hpassed
    simp only [attempt, hjudge, hpassed, if_true, tryChange, hlacking, haction]
  refine ⟨haction, hattempt, fun guard index clock printed hlacking hjudge hpassed => ?_⟩
  rw [apply_eq, Job.outcome_bind, Job.outcome_onDisk, hattempt guard hlacking hjudge hpassed]
  rfl

/-- An instruction has a field if the text of it is not empty. -/
lemma Instruction.has_of_textOf {i : Instruction} {f : NeededField}
    (h : textOf (i.given? f) ≠ []) : i.has f = true := by
  cases hgiven : i.given? f with
  | none => exact absurd (by rw [hgiven]; rfl) h
  | some s =>
    refine has_iff.mpr ⟨s, hgiven, .inr ?_⟩
    rintro rfl
    exact h (by rw [hgiven]; rfl)

lemma Instruction.lacking_eq_nil_of_pair {i : Instruction} {f g : NeededField}
    (hneeds : i.action.needs = [f, g]) (hf : i.has f = true) (hg : i.has g = true) :
    i.lacking = [] := by
  refine lacking_eq_nil_iff.mpr fun field hfield => ?_
  rw [hneeds, List.mem_pair] at hfield
  rcases hfield with rfl | rfl
  · exact hf
  · exact hg

/-! ### Conditions -/

lemma given?_eq_some_iff {s : Option String} {a : String} :
    given? s = some a ↔ s = some a ∧ a ≠ "" := by
  simp [given?, Option.filter_eq_some_iff]

/-- A group of conditions that has a verdict and passes. -/
def ConditionGroup.Passes (context : Context) (default : Option String) (d : Disk)
    (g : ConditionGroup) : Prop :=
  ∃ v, g.judge context default d = .ok v ∧ v.passed = true

namespace Condition

/-- A condition that looks for a pattern in the file at a path, its own target or the default one. -/
structure Searches (c : Condition) (context : Context) (default : Option String) (p : Path)
    (pattern : String) : Prop where
  value : c.value = some pattern
  target : ∃ target, c.searched? default = some target ∧ context.resolve target = p

/-- A condition that has a verdict and passes. -/
def Passes (context : Context) (default : Option String) (d : Disk) (c : Condition) : Prop :=
  ∃ v, c.judge context default d = .ok v ∧ v.passed = true

variable {c : Condition} {context : Context} {default : Option String} {d : Disk} {p : Path}
  {pattern : String} {t : List Char}

/-- A condition that looks for a pattern is judged by its file and the pattern. -/
lemma Searches.judgeText_eq (hsearch : c.Searches context default p pattern)
    (hpattern : pattern ≠ "") :
    ∃ target, context.resolve target = p ∧ ∀ judge : String → String → Except Unwritable Verdict,
      c.judgeText default judge = judge target pattern := by
  obtain ⟨hvalue, target, htarget, hp⟩ := hsearch
  have hgiven : given? c.value = some pattern := given?_eq_some_iff.mpr ⟨hvalue, hpattern⟩
  refine ⟨target, hp, fun judge => ?_⟩
  rw [judgeText, htarget]
  simp only [hgiven]

lemma Searches.judgePattern_eq (hsearch : c.Searches context default p pattern)
    (hpattern : pattern ≠ "") (h : d.readText p = .ok t) (expected : Bool) :
    ∃ reason, c.judgePattern context default d expected =
      .ok ⟨Text.contains pattern.toList t == expected, reason⟩ := by
  obtain ⟨target, rfl, hjudge⟩ := hsearch.judgeText_eq hpattern
  simp only [judgePattern, hjudge, Disk.textIfAny_of_readText h]
  exact ⟨_, rfl⟩

/-- A pattern is found in a file that can be read exactly if the text contains it. -/
lemma passes_patternExists_iff (hkind : c.kind = .patternExists)
    (hsearch : c.Searches context default p pattern) (hpattern : pattern ≠ "")
    (h : d.readText p = .ok t) :
    c.Passes context default d ↔ Text.contains pattern.toList t = true := by
  obtain ⟨reason, hjudge⟩ := hsearch.judgePattern_eq hpattern h true
  rw [Passes, judge, hkind]
  simp only [hjudge, Except.ok.injEq, exists_eq_left', beq_true]

/-- The number of occurrences in a file that can be read is compared with the expected one, which
has to be written out. -/
lemma judge_patternCount (hkind : c.kind = .patternCount)
    (hsearch : c.Searches context default p pattern) (hpattern : pattern ≠ "")
    (h : d.readText p = .ok t) :
    (c.judge context default d).map Verdict.passed =
      (Text.decimal (c.count.getD 0)).map fun _ =>
        (c.operator.getD .equals).holds (Text.occurrences pattern.toList t) (c.count.getD 0) := by
  obtain ⟨target, rfl, hjudge⟩ := hsearch.judgeText_eq hpattern
  rw [judge, hkind]
  simp only [judgeCount, hjudge, Disk.textIfAny_of_readText h]
  cases Text.decimal (c.count.getD 0) <;> rfl

/-- What passes as a condition about a pattern has a file and a pattern to go by. -/
lemma exists_of_judgeText {judge : String → String → Except Unwritable Verdict} {v : Verdict}
    (h : c.judgeText default judge = .ok v) (hv : v.passed = true) :
    ∃ target pattern, c.searched? default = some target ∧ c.value = some pattern ∧ pattern ≠ "" ∧
      judge target pattern = .ok v := by
  rw [judgeText] at h
  split at h
  · obtain rfl := Except.ok.inj h
    cases hv
  · next target htarget =>
    split at h
    · obtain rfl := Except.ok.inj h
      cases hv
    · next pattern hgiven =>
      obtain ⟨hvalue, hpattern⟩ := given?_eq_some_iff.mp hgiven
      exact ⟨target, pattern, htarget, hvalue, hpattern, h⟩

/-- A pattern is found, or its occurrences are counted, only in a file that can be read. -/
lemma Passes.exists_readText (h : c.Passes context default d)
    (hkind : c.kind = .patternExists ∨ c.kind = .patternCount) :
    ∃ target pattern t, c.searched? default = some target ∧ c.value = some pattern ∧
      pattern ≠ "" ∧ d.readText (context.resolve target) = .ok t := by
  obtain ⟨v, hjudge, hv⟩ := h
  rw [judge] at hjudge
  rcases hkind with hkind | hkind
  all_goals
    rw [hkind] at hjudge
    obtain ⟨target, pattern, htarget, hvalue, hpattern, h⟩ := exists_of_judgeText hjudge hv
    dsimp only at h
    split at h
    · obtain rfl := Except.ok.inj h
      cases hv
    · obtain rfl := Except.ok.inj h
      cases hv
    · next t ht =>
      exact ⟨target, pattern, t, htarget, hvalue, hpattern, Disk.readText_of_textIfAny ht⟩

end Condition

end Scaffold
