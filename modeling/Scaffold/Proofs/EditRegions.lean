import Scaffold.Edit.Splice
import Scaffold.Edit.Tag
import Scaffold.Proofs.LineEnds
import Scaffold.Proofs.PatternSearch

/-!
# The regions that an edit changes

Every edit of a text cuts it into parts and puts the parts together again, with something between
them: a block that is put in, a replacement in the place of a pattern, or a tag with one attribute
more. What stands outside is the same before and after. For each kind of edit the parts are named, so
that it can be read off what it keeps.
-/

namespace Scaffold

namespace Edit

open Text

/-! ### Blocks -/

/-- A block that is put into a text: the content, and a line feed above or below it if it does not
stand in a line of its own. -/
def IsBlock (content block : List Char) : Prop :=
  block = content ∨ block = '\n' :: content ∨ block = content ++ ['\n']

/-- The second text is the first one with a block put in at one place. -/
def PutsIn (content t t' : List Char) : Prop :=
  ∃ before block after, IsBlock content block ∧ t = before ++ after ∧
    t' = before ++ block ++ after

/-- The second text is the first one with the content put in at one place and one line feed above or
below it. -/
def PutsLineIn (content t t' : List Char) : Prop :=
  ∃ before block after, (block = '\n' :: content ∨ block = content ++ ['\n']) ∧
    t = before ++ after ∧ t' = before ++ block ++ after

lemma PutsLineIn.putsIn {content t t' : List Char} (h : PutsLineIn content t t') :
    PutsIn content t t' := by
  obtain ⟨before, block, after, hblock, ht, ht'⟩ := h
  exact ⟨before, block, after, .inr hblock, ht, ht'⟩

/-- Putting a line in leaves what stands above and below it. -/
lemma putsLineIn_joinLines_splice (position : Nat) (content : List Char) {ls : List (List Char)}
    (h : ls ≠ []) :
    PutsLineIn content (joinLines ls) (joinLines (splice position content ls)) := by
  rw [splice]
  by_cases htake : ls.take position = []
  · have hdrop : ls.drop position = ls := by
      simpa [htake] using List.take_append_drop position ls
    refine ⟨[], content ++ ['\n'], joinLines ls, .inr rfl, rfl, ?_⟩
    rw [htake, hdrop, List.nil_append, joinLines_cons h]
    simp
  by_cases hdrop : ls.drop position = []
  · have htake' : ls.take position = ls := by
      simpa [hdrop] using List.take_append_drop position ls
    refine ⟨joinLines ls, '\n' :: content, [], .inl rfl, (List.append_nil _).symm, ?_⟩
    rw [htake', hdrop, joinLines_append h (by simp), List.append_nil]
    rfl
  · refine ⟨joinLines (ls.take position) ++ ['\n'], content ++ ['\n'],
      joinLines (ls.drop position), .inr rfl, ?_, ?_⟩
    · conv_lhs => rw [← List.take_append_drop position ls]
      rw [joinLines_append htake hdrop]
      simp
    · rw [joinLines_append htake (by simp), joinLines_cons hdrop]
      simp

lemma putsIn_insertImport (content t : List Char) : PutsIn content t (insertImport content t) := by
  have h := putsLineIn_joinLines_splice (importPosition (lines t)) content (lines_ne_nil t)
  rw [joinLines_lines] at h
  exact h.putsIn

lemma putsLineIn_of_insertBeside {offset : Nat} {pattern content t t' : List Char}
    (h : insertBeside offset pattern content t = some t') : PutsLineIn content t t' := by
  rw [insertBeside, Option.map_eq_some_iff] at h
  obtain ⟨position, -, rfl⟩ := h
  have h := putsLineIn_joinLines_splice (position + offset) content (lines_ne_nil t)
  rwa [joinLines_lines] at h

lemma putsIn_append (content t : List Char) : PutsIn content t (append content t) := by
  refine ⟨t, separator t ++ content, [], ?_, (List.append_nil t).symm, ?_⟩
  · rw [separator]
    split
    · exact .inl rfl
    · split
      · exact .inl rfl
      · exact .inr (.inl rfl)
  · rw [append, List.append_nil, List.append_assoc]

lemma IsBlock.return_not_mem {content block : List Char} (h : IsBlock content block)
    (hcontent : '\r' ∉ content) : '\r' ∉ block := by
  rcases h with rfl | rfl | rfl
  · exact hcontent
  · simpa using hcontent
  · simpa using hcontent

/-- A text gets no carriage return but with the content that is put in. -/
lemma PutsIn.return_not_mem {content t t' : List Char} (h : PutsIn content t t') (ht : '\r' ∉ t)
    (hcontent : '\r' ∉ content) : '\r' ∉ t' := by
  obtain ⟨before, block, after, hblock, rfl, rfl⟩ := h
  have hblock' := hblock.return_not_mem hcontent
  simp only [List.mem_append, not_or] at ht ⊢
  exact ⟨⟨ht.1, hblock'⟩, ht.2⟩

/-! ### Replacements -/

lemma replaceContent_eq_some {pattern replacement t t' : List Char} (hp : pattern ≠ [])
    (h : replaceContent pattern replacement t = some t') :
    ∃ ps, 2 ≤ ps.length ∧ t = pattern.intercalate ps ∧ t' = replacement.intercalate ps := by
  rw [replaceContent] at h
  split at h
  · next hcontains =>
    obtain rfl := Option.some.inj h
    have hcut := isCutInto_pieces hp t
    exact ⟨pieces pattern t, hcut.one_lt_length_iff.mpr (contains_iff.mp hcontains),
      hcut.intercalate_eq, glue_eq_intercalate replacement _⟩
  · cases h

/-! ### Tags -/

/-- A tag of a component, which ends at the first `>` after its name, and the tag with an attribute
added after those that it has. -/
def AddsAttribute (component prop tag tag' : List Char) : Prop :=
  ∃ inside kept selfClosing, tag = '<' :: component ++ inside ++ ['>'] ∧ '>' ∉ inside ∧
    kept <+: inside ∧ tag' = '<' :: component ++ kept ++ ' ' :: prop ++ closingText selfClosing

end Edit

end Scaffold
