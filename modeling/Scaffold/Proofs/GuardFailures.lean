import Scaffold.Proofs.OppositeConditions
import Scaffold.Proofs.PathText

/-!
# Conditions on what cannot be looked at

What the disk refuses stays with the condition that has met it. A pattern counts as absent where it
cannot be looked for, no number of occurrences is right there, and neither of the two conditions
about a file passes if nobody can tell whether the file exists. The other members of a group are
judged all the same, so that the group has its verdict.
-/

namespace Scaffold

namespace Disk

/-- A path at which a pattern cannot be looked for: it cannot be found out whether it leads to
anything, or what it leads to cannot be read. -/
def IsUnsearchable (d : Disk) (p : Path) : Prop :=
  (∃ e, d.holds p = .error e) ∨ d.holds p = .ok true ∧ ∃ e, d.readText p = .error e

variable {d : Disk} {p : Path}

lemma exists_textIfAny_eq_error_iff :
    (∃ e, d.textIfAny p = .error e) ↔ d.IsUnsearchable p := by
  rw [textIfAny, IsUnsearchable]
  cases d.holds p with
  | error e => simp
  | ok there => cases there <;> simp [map_eq_error_iff]

/-- A pattern cannot be looked for exactly along a path that is too long to be followed, in a
directory, and in a file that is not UTF-8. -/
theorem isUnsearchable_iff :
    d.IsUnsearchable p ↔ d.TooLong p ∨ d.LeadsToDirectory p ∨
      ∃ bytes fault, d.find? p = .ok (some (.file bytes)) ∧
        Text.Utf8.decode bytes = .error fault := by
  have hlong : (∃ e, d.holds p = .error e) ↔ d.TooLong p := by
    simp only [holds, map_find?_eq_error_iff, exists_and_left, exists_eq, and_true]
  rw [IsUnsearchable, hlong, leadsToDirectory_iff]
  refine or_congr_right ?_
  rw [holds]
  rcases hfind : d.find? p with e | _ | bytes | _
  · simp [Except.map]
  · simp [Except.map]
  · rw [readText_of_find? hfind]
    cases hdecode : Text.Utf8.decode bytes <;> simp [Except.map, hdecode]
  · simp [readText_of_find?_directory hfind, Except.map]

end Disk

/-- In the directory of the project nothing can be asked for by a name that is too long. -/
lemma Context.tooLong_resolve {context : Context} {d : Disk} {name : String}
    (hroot : d.LeadsToDirectory context.root) (hname : ∀ c ∈ name.toList, c ≠ '/' ∧ c ≠ '\x00')
    (hsize : Disk.maxNameSize < name.utf8ByteSize) : d.TooLong (context.resolve name) := by
  have hne : ∀ other : String, other.utf8ByteSize ≤ Disk.maxNameSize → name ≠ other := by
    rintro other hother rfl
    exact absurd hother (Nat.not_le.mpr hsize)
  rw [resolve, Path.ofString_of_not_mem (fun h => (hname _ h).1 rfl) (hne "" (by decide))
    (hne "." (by decide))]
  exact Disk.tooLong_child hroot (fun h => (hname _ h).2 rfl) hsize

namespace Condition

variable {context : Context} {default : Option String} {d : Disk} {c : Condition} {p : Path}
  {pattern : String}

/-- Where a pattern cannot be looked for, only the condition that it is absent passes. -/
lemma answer_of_isUnsearchable (hsearch : c.Searches context default p pattern)
    (hpattern : pattern ≠ "") (h : d.IsUnsearchable p) :
    (c.kind = .patternNotExists → c.answer context default d = .ok true) ∧
      (c.kind = .patternExists ∨ c.kind = .patternCount →
        c.answer context default d = .ok false) := by
  obtain ⟨e, he⟩ := Disk.exists_textIfAny_eq_error_iff.mpr h
  obtain ⟨target, rfl, hjudge⟩ := hsearch.judgeText_eq hpattern
  rw [answer, judge]
  constructor
  · intro hkind
    simp only [hkind, judgePattern, hjudge, he]
    rfl
  · rintro (hkind | hkind)
    · simp only [hkind, judgePattern, hjudge, he]
      rfl
    · simp only [hkind, judgeCount, hjudge, he]
      rfl

/-- If it cannot be found out whether a file exists, neither condition about it passes. -/
lemma answer_of_holds_eq_error {target : String} {e : DiskError}
    (htarget : given? ((given? c.target).or c.value) = some target)
    (h : d.holds (context.resolve target) = .error e)
    (hkind : c.kind = .fileExists ∨ c.kind = .fileNotExists) :
    c.answer context default d = .ok false := by
  rw [answer, judge]
  rcases hkind with hkind | hkind
  · simp only [hkind, judgeFile, htarget, h]
    rfl
  · simp only [hkind, judgeFile, htarget, h]
    rfl

end Condition

namespace ConditionGroup

/-- A group has a verdict, whatever there is on the disk, exactly if the reasons of all members can be
written, and the trace of it has one entry for each member, in order, which is the verdict on the
member alone. Of the conditions about a pattern that cannot be looked for only the one that it is
absent passes, and of those about a file of which it cannot be found out whether it exists none. -/
theorem judge_containsFailures (context : Context) (default : Option String) (d : Disk) :
    (∀ g : ConditionGroup,
      ((∃ v, g.judge context default d = .ok v) ↔
        ∀ c ∈ g.conditions, ¬c.IsUnwritable context default d) ∧
      ∀ v, g.judge context default d = .ok v →
        List.Forall₂ (fun c verdict => c.judge context default d = .ok verdict) g.conditions
            v.results ∧
          v.passed = g.logic.join v.results ∧ v.logic = g.logic) ∧
      (∀ (c : Condition) (p : Path) (pattern : String),
        c.Searches context default p pattern → pattern ≠ "" → d.IsUnsearchable p →
          (c.kind = .patternNotExists → c.answer context default d = .ok true) ∧
            (c.kind = .patternExists ∨ c.kind = .patternCount →
              c.answer context default d = .ok false)) ∧
      ∀ (c : Condition) (target : String) (e : DiskError),
        given? ((given? c.target).or c.value) = some target →
          d.holds (context.resolve target) = .error e →
          c.kind = .fileExists ∨ c.kind = .fileNotExists →
            c.answer context default d = .ok false := by
  refine ⟨fun g => ⟨?_, fun v => (judge_eq_ok_iff context default d).mp⟩,
    fun c p pattern => Condition.answer_of_isUnsearchable,
    fun c target e => Condition.answer_of_holds_eq_error⟩
  have herror := exists_judge_eq_error_iff context default d (g := g)
  cases hjudge : g.judge context default d with
  | ok v =>
    refine iff_of_true ⟨v, rfl⟩ fun c hc hunwritable => ?_
    obtain ⟨e, he⟩ := herror.mpr ⟨c, hc, hunwritable⟩
    rw [hjudge] at he
    cases he
  | error e =>
    obtain ⟨c, hc, hunwritable⟩ := herror.mp ⟨e, hjudge⟩
    refine iff_of_false ?_ fun hall => hall c hc hunwritable
    rintro ⟨v, hv⟩
    cases hv

/-- A pattern is looked for in a file that is not UTF-8 and counted in a directory, and a file is
asked for by a name that is too long. -/
theorem judge_containsFailures_of_three :
    let context : Context := ⟨[], ["proj"], "shop", "auth", false⟩
    let name := String.ofList (List.replicate 256 'n')
    let absent : Condition := ⟨.patternNotExists, some "x", none, none, some "a.txt"⟩
    let count : Condition := ⟨.patternCount, some "x", some .lessThan, some 5, some "."⟩
    let missing : Condition := ⟨.fileNotExists, some name, none, none, none⟩
    let d : Disk := ⟨[(["proj"], .directory), (["proj", "a.txt"], .file [120, 255])]⟩
    absent.answer context none d = .ok true ∧ count.answer context none d = .ok false ∧
      missing.answer context none d = .ok false ∧
      ∃ v, judge context none d ⟨[absent, count, missing], .any⟩ = .ok v ∧
        v.results.length = 3 ∧ v.passed = true := by
  intro context name absent count missing d
  obtain ⟨hgroup, hpattern, hfile⟩ := judge_containsFailures context none d
  have hundecodable : d.IsUnsearchable ["proj", "a.txt"] := by
    refine .inr ⟨by decide +kernel, ?_⟩
    have hnone : (d.readText ["proj", "a.txt"]).toOption = none := by decide +kernel
    cases hread : d.readText ["proj", "a.txt"] with
    | error e => exact ⟨e, rfl⟩
    | ok t =>
      rw [hread] at hnone
      cases hnone
  have hdirectory : d.IsUnsearchable ["proj"] :=
    Disk.isUnsearchable_iff.mpr (.inr (.inl (Disk.isDirectory_iff.mp (by decide +kernel))))
  have hsize : Disk.maxNameSize < name.utf8ByteSize := by decide +kernel
  have hname : name ≠ "" := by
    intro h
    rw [h] at hsize
    exact absurd hsize (by decide)
  have hlong : d.TooLong (context.resolve name) := by
    refine Context.tooLong_resolve (Disk.isDirectory_iff.mp (by decide +kernel)) (fun x hx => ?_)
      hsize
    obtain rfl : x = 'n' := List.eq_of_mem_replicate (String.toList_ofList ▸ hx)
    exact ⟨by decide, by decide⟩
  have habsent : absent.answer context none d = .ok true :=
    (hpattern absent ["proj", "a.txt"] "x" ⟨rfl, "a.txt", rfl, by decide +kernel⟩ (by decide)
      hundecodable).1 rfl
  have hcount : count.answer context none d = .ok false :=
    (hpattern count ["proj"] "x" ⟨rfl, ".", rfl, by decide +kernel⟩ (by decide) hdirectory).2
      (.inr rfl)
  have hmissing : missing.answer context none d = .ok false :=
    hfile missing name _ (given?_eq_some_iff.mpr ⟨rfl, hname⟩)
      (Disk.map_find?_eq_error_iff.mpr ⟨hlong, rfl⟩) (.inr rfl)
  have hwritable : ∀ c ∈ [absent, count, missing], ¬c.IsUnwritable context none d := by
    refine List.forall_mem_cons.mpr ⟨?_, List.forall_mem_cons.mpr ⟨?_, ?_⟩⟩
    · rintro ⟨hkind, -⟩
      cases hkind
    · rintro ⟨-, -, hdigits, -⟩
      exact absurd hdigits (by decide +kernel)
    · refine List.forall_mem_singleton.mpr ?_
      rintro ⟨hkind, -⟩
      cases hkind
  obtain ⟨v, hv⟩ := (hgroup ⟨[absent, count, missing], .any⟩).1.mpr hwritable
  obtain ⟨hverdicts, hpassed, -⟩ := (hgroup ⟨[absent, count, missing], .any⟩).2 v hv
  refine ⟨habsent, hcount, hmissing, v, hv, hverdicts.length_eq.symm, ?_⟩
  obtain ⟨first, rest, hfirst, -, hresults⟩ := List.forall₂_cons_left_iff.mp hverdicts
  rw [Condition.answer, hfirst] at habsent
  rw [hpassed, hresults, Logic.join_cons, show first.passed = true from Except.ok.inj habsent]
  rfl

/-- The number of occurrences in a file that can be read is to be one that has too many digits: the
group has no verdict. -/
theorem not_judge_containsFailures :
    let context : Context := ⟨[], ["proj"], "shop", "auth", false⟩
    let c : Condition :=
      ⟨.patternCount, some "x", none, some (Number.tenTo Text.maxDigits), some "a.txt"⟩
    let d : Disk := ⟨[(["proj"], .directory), (["proj", "a.txt"], .file [120])]⟩
    ¬∃ v, judge context none d ⟨[c], .all⟩ = .ok v := by
  intro context c d
  have hread : d.readText (context.resolve "a.txt") = .ok ['x'] := by decide +kernel
  have hlong : Number.tenTo Text.maxDigits ≤ (c.count.getD 0).natAbs :=
    (Int.natAbs_natCast (Number.tenTo Text.maxDigits)).ge
  have hunwritable : c.IsUnwritable context none d :=
    ⟨rfl, rfl, hlong, "a.txt", ['x'], rfl, Disk.textIfAny_of_readText hread⟩
  obtain ⟨e, he⟩ := (exists_judge_eq_error_iff context none d (g := ⟨[c], .all⟩)).mpr
    ⟨c, List.mem_cons_self, hunwritable⟩
  rintro ⟨v, hv⟩
  rw [he] at hv
  cases hv

end ConditionGroup

end Scaffold
