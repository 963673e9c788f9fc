import Mathlib.Tactic.Ring
import Scaffold.Proofs.EditRegions
import Scaffold.Proofs.ReadableFile

/-!
# Looking for, counting and replacing a pattern

A condition that looks for a pattern, a condition that counts it and an edit that replaces it each
go through the text of a file on their own. They find the same occurrences: those at which the text
is cut from the left, of which there are as many as can be chosen without overlap.
-/

namespace Scaffold

namespace Text

variable {pattern t : List Char}

/-- There is one piece more than there are occurrences between the pieces. -/
lemma length_pieces (hp : pattern ≠ []) (t : List Char) :
    (pieces pattern t).length = occurrences pattern t + 1 := by
  have hpos := List.length_pos_iff.mpr (isCutInto_pieces hp t).ne_nil
  rw [occurrences]
  omega

lemma contains_iff_occurrences_pos (hp : pattern ≠ []) :
    contains pattern t = true ↔ 0 < occurrences pattern t := by
  rw [contains_iff, ← (isCutInto_pieces hp t).one_lt_length_iff, length_pieces hp]
  exact Nat.succ_lt_succ_iff

/-- A replacement makes a text longer or shorter by as much as the two differ, once for every
occurrence. -/
lemma length_replaceAll (hp : pattern ≠ []) (replacement t : List Char) :
    ((replaceAll pattern replacement t).length : ℤ) =
      t.length + occurrences pattern t * ((replacement.length : ℤ) - pattern.length) := by
  have hold := length_intercalate pattern (length_pieces hp t)
  have hnew := length_intercalate replacement (length_pieces hp t)
  rw [← (isCutInto_pieces hp t).intercalate_eq] at hold
  rw [replaceAll, glue_eq_intercalate, hnew, hold]
  push_cast
  ring

end Text

lemma Edit.replaceContent_eq {pattern : List Char} (hp : pattern ≠ [])
    (replacement t : List Char) :
    replaceContent pattern replacement t =
      if 0 < Text.occurrences pattern t then some (Text.replaceAll pattern replacement t)
      else none := by
  simp only [replaceContent, Text.contains_iff_occurrences_pos hp]

/-- In a file that can be read, the search for a pattern, the count of it and its replacement agree
on how the pattern cuts the text. The number compared is the number of cuts, which is the largest
number of occurrences that do not overlap. The pattern is found exactly if there is a cut, and then
a replacement puts the other text in at every cut and nowhere else; otherwise it leaves the file as
it is. -/
theorem patternUses_agree {context : Context} {d : Disk} {q : Path} {t : List Char} {p : String}
    (hp : p ≠ "") (h : d.readText q = .ok t) :
    ∃ n ts, ts.length = n + 1 ∧ t = p.toList.intercalate ts ∧ Text.IsCutInto p.toList t ts ∧
      IsGreatest {m | ∃ S, Text.AreApart p.toList t S ∧ S.card = m} n ∧
      (∀ (c : Condition) (default : Option String), c.Searches context default q p →
        (c.kind = .patternExists → (c.Passes context default d ↔ 0 < n)) ∧
        (c.kind = .patternCount →
          (c.judge context default d).map Verdict.passed =
            (Text.decimal (c.count.getD 0)).map fun _ =>
              (c.operator.getD .equals).holds n (c.count.getD 0))) ∧
      ∀ (i : Instruction) (r : String), i.action = .replaceContent → context.resolve i.path = q →
        i.pattern = some p → i.replacement = some r →
        i.lacking = [] ∧
          i.Edits context d (if 0 < n then some (r.toList.intercalate ts) else none) ∧
          ((r.toList.intercalate ts).length : ℤ) =
            t.length + n * ((r.length : ℤ) - p.length) := by
  have hp' : p.toList ≠ [] := by simpa using hp
  have hcut := Text.isCutInto_pieces hp' t
  have hlength := Text.length_pieces hp' t
  refine ⟨Text.occurrences p.toList t, Text.pieces p.toList t, hlength, hcut.intercalate_eq, hcut,
    Text.isGreatest_card_areApart hp' hcut hlength, fun c default hsearch => ⟨?_, ?_⟩, ?_⟩
  · intro hkind
    rw [Condition.passes_patternExists_iff hkind hsearch hp h,
      Text.contains_iff_occurrences_pos hp']
  · intro hkind
    exact Condition.judge_patternCount hkind hsearch hp h
  · rintro i r haction rfl hpattern hreplacement
    have hneeds : i.action.needs = [.pattern, .replacement] := by rw [haction, Action.needs]
    have hlacking : i.lacking = [] := Instruction.lacking_eq_nil_of_pair hneeds
      (Instruction.has_iff.mpr ⟨p, hpattern, .inr hp⟩)
      (Instruction.has_iff.mpr ⟨r, hreplacement, .inl rfl⟩)
    have hchange : i.change = .edit (Edit.replaceContent p.toList r.toList) := by
      simp only [Instruction.change, haction, hpattern, hreplacement]
      rfl
    have hedits := Instruction.edits_of_readText hchange h
    rw [Edit.replaceContent_eq hp', Text.replaceAll, Text.glue_eq_intercalate] at hedits
    refine ⟨hlacking, hedits, ?_⟩
    rw [← Text.glue_eq_intercalate]
    exact Text.length_replaceAll hp' r.toList t

/-- A pattern that overlaps itself stands at four places, of which two can be chosen. -/
theorem patternUses_agree_of_overlap :
    let context : Context := ⟨[], ["proj"], "shop", "auth", false⟩
    let i : Instruction :=
      ⟨"a.txt", .replaceContent, none, some "aa", some "b", none, none, none, none⟩
    let c : Condition := ⟨.patternCount, some "aa", none, some 2, none⟩
    let t := "aaaaa".toList
    let d : Disk := ⟨[(["proj"], .directory), (["proj", "a.txt"], .file (Text.Utf8.encode t))]⟩
    (c.judge context (some i.path) d).map Verdict.passed = .ok true ∧
      IsGreatest {m | ∃ S, Text.AreApart ['a', 'a'] t S ∧ S.card = m} 2 ∧
      (∃ ts, ts.length = 3 ∧ t = ['a', 'a'].intercalate ts ∧
        i.Edits context d (some (['b'].intercalate ts))) ∧
      (i.change.apply ["proj", "a.txt"] d).2.readText ["proj", "a.txt"] =
        .ok "bba".toList := by
  intro context i c t d
  have hread : d.readText (context.resolve i.path) = .ok t := by decide +kernel
  obtain ⟨n, ts, hlength, ht, -, hgreatest, hconditions, hreplaces⟩ :=
    @patternUses_agree context d _ t "aa" (by decide) hread
  have hsearch : c.Searches context (some i.path) (context.resolve i.path) "aa" :=
    ⟨rfl, i.path, rfl, rfl⟩
  have hjudge : (c.judge context (some i.path) d).map Verdict.passed = .ok true := by
    decide +kernel
  have hwritten : Text.decimal (c.count.getD 0) = .ok "2" := by decide +kernel
  have hcount := (hconditions c (some i.path) hsearch).2 rfl
  rw [hjudge, hwritten] at hcount
  have hholds : Comparison.equals.holds n 2 = true := (Except.ok.inj hcount).symm
  obtain rfl : n = 2 := by exact_mod_cast of_decide_eq_true hholds
  obtain ⟨-, hedits, -⟩ := hreplaces i "b" rfl rfl rfl rfl
  exact ⟨hjudge, hgreatest, ⟨ts, hlength, ht, hedits⟩, by decide +kernel⟩

end Scaffold
