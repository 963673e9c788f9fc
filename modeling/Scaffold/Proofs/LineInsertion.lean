import Mathlib.Order.Bounds.Basic
import Scaffold.Proofs.EditRegions
import Scaffold.Proofs.ReadableFile

/-!
# Putting a line in beside a pattern

A line is put in above or below the first line that holds a pattern. The lines are those between the
line feeds, so that a pattern with a line feed is on no line, although the text may contain it. Any
other pattern is on a line exactly if the text contains it, and then a condition that looks for it
passes.
-/

namespace Scaffold

namespace Text

variable {pattern : List Char} {ls : List (List Char)}

/-! ### Lines -/

lemma lines_eq_splitOn (t : List Char) : lines t = t.splitOn '\n' := by
  induction t with
  | nil => rfl
  | cons c rest ih =>
    rw [List.splitOn_cons_eq_if_modifyHead, lines, ← ih]
    by_cases hc : c = '\n'
    · rw [if_pos hc, if_pos (beq_iff_eq.mpr hc)]
    · rw [if_neg hc, if_neg (mt beq_iff_eq.mp hc)]
      cases hlines : lines rest with
      | nil => exact absurd hlines (lines_ne_nil rest)
      | cons line more => rfl

lemma joinLines_eq_intercalate (ls : List (List Char)) : joinLines ls = ['\n'].intercalate ls := by
  induction ls with
  | nil => rfl
  | cons line rest ih =>
    cases rest with
    | nil => exact List.intercalate_singleton.symm
    | cons next more =>
      rw [joinLines_cons (List.cons_ne_nil next more), ih, List.intercalate_cons_cons,
        List.append_assoc, List.singleton_append]

lemma lines_joinLines (hne : ls ≠ []) (h : ∀ line ∈ ls, '\n' ∉ line) : lines (joinLines ls) = ls := by
  rw [lines_eq_splitOn, joinLines_eq_intercalate, List.splitOn_intercalate '\n' h hne]

lemma not_mem_of_mem_lines {t line : List Char} (h : line ∈ lines t) : '\n' ∉ line := by
  induction t generalizing line with
  | nil =>
    rw [List.mem_singleton.mp h]
    exact List.not_mem_nil
  | cons c rest ih =>
    rw [lines] at h
    split at h
    · rcases List.mem_cons.mp h with rfl | h
      · exact List.not_mem_nil
      · exact ih h
    · next hc =>
      cases hlines : lines rest with
      | nil => exact absurd hlines (lines_ne_nil rest)
      | cons first more =>
        rw [hlines] at h ih
        rcases List.mem_cons.mp h with rfl | h
        · rw [List.mem_cons, not_or]
          exact ⟨Ne.symm hc, ih List.mem_cons_self⟩
        · exact ih (List.mem_cons_of_mem _ h)

/-- A pattern without a line feed does not reach over the end of a line. -/
lemma infix_joinLines_iff (hp : pattern ≠ []) (hfeed : '\n' ∉ pattern) :
    pattern <:+: joinLines ls ↔ ∃ line ∈ ls, pattern <:+: line := by
  -- what begins at a line feed has one
  have hstart : ∀ {part rest : List Char}, part ≠ [] → (∀ c ∈ part, c ∈ pattern) →
      ¬ part <+: '\n' :: rest := by
    intro part rest hne hpart hprefix
    obtain ⟨c, part, rfl⟩ := List.exists_cons_of_ne_nil hne
    obtain ⟨rfl, -⟩ := List.cons_prefix_cons.mp hprefix
    exact hfeed (hpart _ List.mem_cons_self)
  induction ls with
  | nil => simp [joinLines, hp]
  | cons line rest ih =>
    cases rest with
    | nil => simp [joinLines]
    | cons next more =>
      rw [joinLines_cons (List.cons_ne_nil next more), List.exists_mem_cons_iff]
      refine Iff.trans ?_ (or_congr_right ih)
      constructor
      · intro h
        rcases List.infix_append_iff_ne_nil.mp h with h | h | ⟨u, v, -, hv, rfl, -, hprefix⟩
        · exact .inl h
        · rcases List.infix_cons_iff.mp h with h | h
          · exact absurd h (hstart hp fun c hc => hc)
          · exact .inr h
        · exact absurd hprefix (hstart hv fun c hc => List.mem_append_right u hc)
      · rintro (h | h)
        · exact h.trans (List.prefix_append _ _).isInfix
        · exact (h.trans (List.suffix_cons _ _).isInfix).trans (List.suffix_append _ _).isInfix

end Text

namespace Edit

open Text

variable {pattern content t : List Char} {offset : Nat}

/-- A line of a text, which ends at a line feed or the end of the text, holds a pattern. -/
def HoldsOnLine (pattern t : List Char) (k : Nat) : Prop :=
  ∃ line, (t.splitOn '\n')[k]? = some line ∧ pattern <:+: line

/-- A pattern is on some line exactly if it has no line feed and the text contains it. -/
lemma exists_holdsOnLine_iff (hp : pattern ≠ []) :
    (∃ k, HoldsOnLine pattern t k) ↔ '\n' ∉ pattern ∧ pattern <:+: t := by
  have hlines : (∃ k, HoldsOnLine pattern t k) ↔ ∃ line ∈ lines t, pattern <:+: line := by
    simp only [HoldsOnLine, ← lines_eq_splitOn, List.mem_iff_getElem?]
    exact ⟨fun ⟨k, line, hk, h⟩ => ⟨line, ⟨k, hk⟩, h⟩, fun ⟨line, ⟨k, hk⟩, h⟩ => ⟨k, line, hk, h⟩⟩
  rw [hlines]
  constructor
  · rintro ⟨line, hline, h⟩
    have hfeed : '\n' ∉ pattern := fun hmem => not_mem_of_mem_lines hline (h.subset hmem)
    refine ⟨hfeed, ?_⟩
    rw [← joinLines_lines t]
    exact (infix_joinLines_iff hp hfeed).mpr ⟨line, hline, h⟩
  · rintro ⟨hfeed, h⟩
    rw [← joinLines_lines t] at h
    exact (infix_joinLines_iff hp hfeed).mp h

lemma splice_eq_insertIdx {α : Type} {position : Nat} {xs : List α} (h : position ≤ xs.length)
    (a : α) : splice position a xs = xs.insertIdx position a := by
  induction xs generalizing position with
  | nil =>
    obtain rfl : position = 0 := Nat.le_zero.mp h
    rfl
  | cons x xs ih =>
    cases position with
    | zero => rfl
    | succ position =>
      rw [List.insertIdx_succ_cons, ← ih (Nat.le_of_succ_le_succ h)]
      rfl

/-- The first line that holds a pattern is found, unless no line holds it. -/
lemma matchingLine?_cases (pattern t : List Char) :
    (∃ k, k < (lines t).length ∧ IsLeast {k | HoldsOnLine pattern t k} k ∧
      matchingLine? pattern (lines t) = some k) ∨
      ((∀ k, ¬ HoldsOnLine pattern t k) ∧ matchingLine? pattern (lines t) = none) := by
  have hholds : ∀ k, HoldsOnLine pattern t k ↔
      ∃ h : k < (lines t).length, contains pattern (lines t)[k] = true := by
    intro k
    simp only [HoldsOnLine, ← lines_eq_splitOn, List.getElem?_eq_some_iff, contains_iff]
    exact ⟨fun ⟨_, ⟨hk, rfl⟩, h⟩ => ⟨hk, h⟩, fun ⟨hk, h⟩ => ⟨_, ⟨hk, rfl⟩, h⟩⟩
  cases hfind : matchingLine? pattern (lines t) with
  | none =>
    refine .inr ⟨fun k hk => ?_, rfl⟩
    obtain ⟨hlt, hcontains⟩ := (hholds k).mp hk
    have hnot := List.findIdx?_eq_none_iff.mp hfind _ (List.getElem_mem hlt)
    rw [hcontains] at hnot
    cases hnot
  | some k =>
    obtain ⟨hlt, hcontains, hbefore⟩ := List.findIdx?_eq_some_iff_getElem.mp hfind
    refine .inl ⟨k, hlt, ⟨(hholds k).mpr ⟨hlt, hcontains⟩, fun j hj => ?_⟩, rfl⟩
    obtain ⟨_, hj⟩ := (hholds j).mp hj
    exact not_lt.mp fun hjk => hbefore j hjk hj

/-- A line is put in beside the first line that holds a pattern, or nowhere if no line holds it. -/
lemma insertBeside_cases (hoffset : offset ≤ 1) (pattern content t : List Char) :
    (∃ k, IsLeast {k | HoldsOnLine pattern t k} k ∧
      insertBeside offset pattern content t =
        some (['\n'].intercalate ((t.splitOn '\n').insertIdx (k + offset) content))) ∨
      ((∀ k, ¬ HoldsOnLine pattern t k) ∧ insertBeside offset pattern content t = none) := by
  rw [insertBeside]
  rcases matchingLine?_cases pattern t with ⟨k, hlt, hleast, hmatch⟩ | ⟨hno, hmatch⟩
  · refine .inl ⟨k, hleast, ?_⟩
    rw [hmatch, Option.map_some, splice_eq_insertIdx (by omega), joinLines_eq_intercalate,
      lines_eq_splitOn]
  · refine .inr ⟨hno, ?_⟩
    rw [hmatch, Option.map_none]

lemma isSome_insertBeside_iff (hoffset : offset ≤ 1) (pattern content t : List Char) :
    (insertBeside offset pattern content t).isSome = true ↔ ∃ k, HoldsOnLine pattern t k := by
  rcases insertBeside_cases hoffset pattern content t with ⟨k, hleast, hinsert⟩ | ⟨hno, hinsert⟩
  · rw [hinsert]
    exact iff_of_true rfl ⟨k, hleast.1⟩
  · rw [hinsert]
    exact iff_of_false Bool.false_ne_true (not_exists.mpr hno)

end Edit

namespace Instruction

/-- Putting a line in beside a pattern edits a file that can be read at the first line that holds the
pattern. If there is none, the file is left as it is. Otherwise the content becomes a line of its
own directly below or above that line, so that nothing but the content and one line feed is put in.
The file is changed exactly if the pattern has no line feed and a condition that looks for it in the
file as it was passes. -/
theorem insertBeside_editsFirstLine {i : Instruction} {context : Context} {d : Disk}
    {t : List Char} {p c : String} {offset : Nat}
    (haction : i.action = .insertAfter ∧ offset = 1 ∨ i.action = .insertBefore ∧ offset = 0)
    (hpattern : i.pattern = some p) (hp : p ≠ "") (hcontent : i.content = some c)
    (h : d.readText (context.resolve i.path) = .ok t) :
    i.lacking = [] ∧
      ((∀ k, ¬ Edit.HoldsOnLine p.toList t k) ∧ i.Edits context d none ∨
        ∃ k t', IsLeast {k | Edit.HoldsOnLine p.toList t k} k ∧
          t' = ['\n'].intercalate ((t.splitOn '\n').insertIdx (k + offset) c.toList) ∧
          Edit.PutsLineIn c.toList t t' ∧ i.Edits context d (some t')) ∧
      ∀ (condition : Condition) (default : Option String), condition.kind = .patternExists →
        condition.Searches context default (context.resolve i.path) p →
        ((i.change.apply (context.resolve i.path) d).1 = .ok true ↔
          '\n' ∉ p.toList ∧ condition.Passes context default d) := by
  have hneeds : i.action.needs = [.pattern, .content] := by
    rcases haction with ⟨haction, -⟩ | ⟨haction, -⟩ <;> rw [haction, Action.needs]
  have hlacking : i.lacking = [] := lacking_eq_nil_of_pair hneeds
    (has_iff.mpr ⟨p, hpattern, .inr hp⟩) (has_iff.mpr ⟨c, hcontent, .inl rfl⟩)
  have hoffset : offset ≤ 1 := by rcases haction with ⟨-, rfl⟩ | ⟨-, rfl⟩ <;> decide
  have hchange : i.change = .edit (Edit.insertBeside offset p.toList c.toList) := by
    rcases haction with ⟨haction, rfl⟩ | ⟨haction, rfl⟩ <;>
      simp only [change, haction, hpattern, hcontent] <;> rfl
  have hedits := edits_of_readText hchange h
  have hp' : p.toList ≠ [] := by simpa using hp
  have hchanged : (i.change.apply (context.resolve i.path) d).1 = .ok true ↔
      ∃ k, Edit.HoldsOnLine p.toList t k := by
    rw [hedits.action, Except.ok.injEq, Edit.isSome_insertBeside_iff hoffset]
  refine ⟨hlacking, ?_, fun condition default hkind hsearch => ?_⟩
  · rcases Edit.insertBeside_cases hoffset p.toList c.toList t with
      ⟨k, hleast, hinsert⟩ | ⟨hno, hinsert⟩
    · have hline := Edit.putsLineIn_of_insertBeside hinsert
      rw [hinsert] at hedits
      exact .inr ⟨k, _, hleast, rfl, hline, hedits⟩
    · rw [hinsert] at hedits
      exact .inl ⟨hno, hedits⟩
  · rw [hchanged, Edit.exists_holdsOnLine_iff hp',
      Condition.passes_patternExists_iff hkind hsearch hp h, Text.contains_iff]

/-- A line is put in below the last line of a file, which does not end in a line feed. -/
theorem insertBeside_editsFirstLine_of_lastLine :
    let context : Context := ⟨[], ["proj"], "shop", "auth", false⟩
    let i : Instruction :=
      ⟨"a.txt", .insertAfter, some "z", some "b", none, none, none, none, none⟩
    let condition : Condition := ⟨.patternExists, some "b", none, none, none⟩
    let t := "a\nxb".toList
    let d : Disk := ⟨[(["proj"], .directory), (["proj", "a.txt"], .file (Text.Utf8.encode t))]⟩
    i.lacking = [] ∧ condition.Passes context (some i.path) d ∧
      (∃ t', Edit.PutsLineIn ['z'] t t' ∧ i.Edits context d (some t')) ∧
      (i.change.apply ["proj", "a.txt"] d).2.readText ["proj", "a.txt"] =
        .ok "a\nxb\nz".toList := by
  intro context i condition t d
  have hread : d.readText (context.resolve i.path) = .ok t := by decide +kernel
  obtain ⟨hlacking, hcases, hguard⟩ :=
    insertBeside_editsFirstLine (i := i) (.inl ⟨rfl, rfl⟩) rfl (by decide) rfl hread
  have hsearch : condition.Searches context (some i.path) (context.resolve i.path) "b" :=
    ⟨rfl, i.path, rfl, rfl⟩
  rcases hcases with ⟨hno, -⟩ | ⟨_, t', -, -, hline, hedits⟩
  · exact absurd ⟨['x', 'b'], by decide, by decide⟩ (hno 1)
  · have hpasses := ((hguard condition (some i.path) rfl hsearch).mp (by rw [hedits.action]; rfl)).2
    exact ⟨hlacking, hpasses, ⟨t', hline, hedits⟩, by decide +kernel⟩

end Instruction

end Scaffold
