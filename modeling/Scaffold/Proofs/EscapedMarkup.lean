import Mathlib.Tactic.Lemma
import Scaffold.Console.Printed

/-!
# Escaped markup

Markup that is meant to show a text as it is has no tags, whatever the text. The reader of markup
follows the writer through the text: a bracket that would open a tag stands behind an odd number of
backslashes, and no other bracket opens one, because the backslashes that have been put in do not
make a tag of what was none.
-/

namespace Scaffold.Console.Markup

/-- Whether all parts of markup are text. -/
def HasNoTag (ps : List Part) : Prop := ∀ p ∈ ps, ∃ t, p = .text t

lemma hasNoTag_cons_text {t : List Char} {ps : List Part} :
    HasNoTag (.text t :: ps) ↔ HasNoTag ps := by
  simp [HasNoTag]

lemma faultFrom?_of_hasNoTag {ps : List Part} (h : HasNoTag ps) (openStyles : List (List Char)) :
    faultFrom? openStyles ps = none := by
  induction ps with
  | nil => rfl
  | cons p rest ih =>
    obtain ⟨⟨t, rfl⟩, hrest⟩ := List.forall_mem_cons.mp h
    exact ih hrest

/-! ### Backslashes -/

lemma partsFrom_slashes (position : Nat) (before : List Char) (slashes count : Nat)
    (t : List Char) :
    partsFrom position (.text before slashes) (List.replicate count '\\' ++ t) =
      partsFrom (position + count) (.text before (slashes + count)) t := by
  induction count generalizing position slashes with
  | zero => rfl
  | succ count ih =>
    rw [List.replicate_succ, List.cons_append, partsFrom]
    simp only [if_pos]
    rw [ih, Nat.add_right_comm position 1 count, Nat.add_right_comm slashes 1 count]
    rfl

lemma partsFrom_tag_slashes (position start : Nat) (escaped : Bool) (before : List Char)
    (count : Nat) (t : List Char) :
    ∃ before', partsFrom position (.tag start escaped before) (List.replicate count '\\' ++ t) =
      partsFrom (position + count) (.tag start escaped before') t := by
  induction count generalizing position before with
  | zero => exact ⟨before, rfl⟩
  | succ count ih =>
    obtain ⟨before', hrest⟩ := ih (position + 1) ('\\' :: before)
    refine ⟨before', ?_⟩
    rw [List.replicate_succ, List.cons_append, partsFrom]
    simp only [if_neg (by decide : '\\' ≠ ']')]
    rw [hrest, Nat.add_right_comm position 1 count]
    rfl

/-! ### What escaping does to tags -/

/-- Escaping neither adds nor drops a bracket. -/
lemma find?_escapeFrom (slashes after : Nat) (t : List Char) :
    ((escapeFrom slashes t ++ List.replicate after '\\').find? fun c => c = '[' || c = ']') =
      t.find? fun c => c = '[' || c = ']' := by
  have hslashes (n : Nat) (u : List Char) :
      ((List.replicate n '\\' ++ u).find? fun c => c = '[' || c = ']') =
        u.find? fun c => c = '[' || c = ']' := by
    induction n with
    | zero => rfl
    | succ n ih =>
      rw [List.replicate_succ, List.cons_append, List.find?_cons_of_neg (by decide), ih]
  induction t generalizing slashes with
  | nil =>
    rw [escapeFrom, hslashes, ← List.append_nil (List.replicate after '\\'), hslashes]
  | cons c rest ih =>
    rw [escapeFrom]
    by_cases hc : c = '\\'
    · rw [if_pos hc, ih, hc, List.find?_cons_of_neg (by decide)]
    · simp only [if_neg hc]
      rw [List.append_assoc, hslashes, List.cons_append, List.find?_cons, List.find?_cons, ih]

lemma exists_escapeFrom_succ (slashes : Nat) (t : List Char) :
    ∃ u, escapeFrom (slashes + 1) t = '\\' :: u := by
  induction t generalizing slashes with
  | nil => exact ⟨_, List.replicate_succ⟩
  | cons c rest ih =>
    rw [escapeFrom]
    by_cases hc : c = '\\'
    · rw [if_pos hc]
      exact ih (slashes + 1)
    · simp only [if_neg hc]
      split
      · exact ⟨_, by rw [List.replicate_succ, List.cons_append]⟩
      · exact ⟨_, by rw [List.replicate_succ, List.cons_append]⟩

lemma isTag_slash (t : List Char) : isTag ('\\' :: t) = false := by
  simp [isTag]

lemma isTag_bracket (t : List Char) : isTag ('[' :: t) = false := by
  simp [isTag]

/-- What has become a tag by escaping has been one. -/
lemma isTag_of_escapeFrom {after : Nat} {t : List Char}
    (h : isTag (escapeFrom 0 t ++ List.replicate after '\\') = true) : isTag t = true := by
  cases t with
  | nil =>
    cases after with
    | zero => cases h
    | succ after =>
      rw [escapeFrom, List.replicate_zero, List.nil_append, List.replicate_succ, isTag_slash] at h
      cases h
  | cons c rest =>
    rw [escapeFrom] at h
    by_cases hc : c = '\\'
    · obtain ⟨u, hu⟩ := exists_escapeFrom_succ 0 rest
      rw [if_pos hc, hu, List.cons_append, isTag_slash] at h
      cases h
    · simp only [if_neg hc] at h
      by_cases hbracket : c = '['
      · subst hbracket
        cases hrest : isTag rest with
        | true => simp [hrest, isTag_slash, List.replicate_succ] at h
        | false => simp [hrest, isTag_bracket] at h
      · simp only [hbracket, decide_false, Bool.false_and, Bool.false_eq_true, if_false,
          List.replicate_zero, List.nil_append, List.cons_append] at h
        rw [isTag, find?_escapeFrom] at h
        rw [isTag, h]

/-! ### What the reader finds -/

/-- Whether the reader of markup finds no tag from where it is on, if it reads an escaped text. -/
def FindsNoTag (reading : Reading) (t : List Char) : Prop :=
  ∀ position slashes after, HasNoTag
    (partsFrom position reading (escapeFrom slashes t ++ List.replicate after '\\'))

lemma hasNoTag_text_slashes (position : Nat) (before : List Char) (count : Nat) :
    HasNoTag (partsFrom position (.text before 0) (List.replicate count '\\')) := by
  have hread := partsFrom_slashes position before 0 count []
  rw [List.append_nil] at hread
  rw [hread, partsFrom]
  simp [HasNoTag]

lemma hasNoTag_tag_slashes (position start : Nat) (escaped : Bool) (before : List Char)
    (count : Nat) :
    HasNoTag (partsFrom position (.tag start escaped before) (List.replicate count '\\')) := by
  obtain ⟨before', hread⟩ := partsFrom_tag_slashes position start escaped before count []
  rw [List.append_nil] at hread
  rw [hread, partsFrom]
  simp [HasNoTag]

section Step

variable {c : Char} {rest : List Char} (htext : ∀ before, FindsNoTag (.text before 0) rest)
  (htag : ∀ start before, FindsNoTag (.tag start true before) rest)

include htext htag

lemma findsNoTag_text_cons (before : List Char) : FindsNoTag (.text before 0) (c :: rest) := by
  intro position slashes after
  rw [escapeFrom]
  by_cases hc : c = '\\'
  · rw [if_pos hc]
    exact htext before position (slashes + 1) after
  · simp only [if_neg hc]
    rw [List.append_assoc, partsFrom_slashes, List.cons_append, partsFrom]
    simp only [if_neg hc]
    by_cases hbracket : c = '['
    · subst hbracket
      simp only [if_pos]
      by_cases hread : isTag (escapeFrom 0 rest ++ List.replicate after '\\') = true
      · -- the writer has put an odd number of backslashes before it
        have hodd : (0 + (2 * slashes + 1)) % 2 = 1 := by omega
        rw [if_pos hread]
        simp only [isTag_of_escapeFrom hread, decide_true, Bool.and_self, if_pos, hodd]
        rw [hasNoTag_cons_text, hasNoTag_cons_text]
        exact htag _ _ _ _ _
      · rw [if_neg hread]
        exact htext _ _ _ _
    · simp only [if_neg hbracket]
      exact htext _ _ _ _

lemma findsNoTag_tag_cons (start : Nat) (before : List Char) :
    FindsNoTag (.tag start true before) (c :: rest) := by
  intro position slashes after
  rw [escapeFrom]
  by_cases hc : c = '\\'
  · rw [if_pos hc]
    exact htag start before position (slashes + 1) after
  · simp only [if_neg hc]
    rw [List.append_assoc]
    obtain ⟨before', hread⟩ := partsFrom_tag_slashes position start true before
      (if (c = '[' && isTag rest) = true then 2 * slashes + 1 else slashes)
      (c :: escapeFrom 0 rest ++ List.replicate after '\\')
    rw [hread, List.cons_append, partsFrom]
    by_cases hclose : c = ']'
    · simp only [if_pos hclose, tagPart, if_pos]
      rw [hasNoTag_cons_text]
      exact htext _ _ _ _
    · simp only [if_neg hclose]
      exact htag _ _ _ _ _

end Step

lemma findsNoTag (t : List Char) :
    (∀ before, FindsNoTag (.text before 0) t) ∧
      ∀ start before, FindsNoTag (.tag start true before) t := by
  induction t with
  | nil =>
    constructor
    · intro before position slashes after
      rw [escapeFrom, List.replicate_append_replicate]
      exact hasNoTag_text_slashes _ _ _
    · intro start before position slashes after
      rw [escapeFrom, List.replicate_append_replicate]
      exact hasNoTag_tag_slashes _ _ _ _ _
  | cons c rest ih =>
    obtain ⟨htext, htag⟩ := ih
    exact ⟨findsNoTag_text_cons htext htag, findsNoTag_tag_cons htext htag⟩

/-- Escaped markup has no fault. -/
theorem fault?_escape (t : List Char) : fault? (escape t) = none := by
  have hclose : ∃ after, escape t = escapeFrom 0 t ++ List.replicate after '\\' := by
    unfold escape closeSlash
    split
    · exact ⟨0, (List.append_nil _).symm⟩
    · exact ⟨1, rfl⟩
    · exact ⟨0, (List.append_nil _).symm⟩
  obtain ⟨after, hafter⟩ := hclose
  rw [fault?, parts, hafter]
  exact faultFrom?_of_hasNoTag ((findsNoTag t).1 [] 0 0 after) []

lemma hasNoTag_of_not_mem {t : List Char} (h : '[' ∉ t) (position : Nat) (before : List Char)
    (slashes : Nat) : HasNoTag (partsFrom position (.text before slashes) t) := by
  induction t generalizing position before slashes with
  | nil =>
    rw [partsFrom]
    simp [HasNoTag]
  | cons c rest ih =>
    obtain ⟨hc, hrest⟩ := not_or.mp (mt List.mem_cons.mpr h)
    rw [partsFrom]
    simp only [if_neg (Ne.symm hc)]
    split
    · exact ih hrest _ _ _
    · exact ih hrest _ _ _

/-- Markup without an opening bracket has no fault. -/
lemma fault?_of_not_mem {t : List Char} (h : '[' ∉ t) : fault? t = none :=
  faultFrom?_of_hasNoTag (hasNoTag_of_not_mem h 0 [] 0) []

/-- A style that is opened and then closed again is no fault. -/
lemma faultFrom?_styled {style : List Char} (hname : styleName style = style)
    (hopen : style.head? ≠ some '/') (hblank : Text.trim style ≠ []) (position position' : Nat)
    (t : List Char) :
    faultFrom? [] [.text [], .text [], .tag position style, .text t, .text [],
      .tag position' ('/' :: style), .text []] = none := by
  have hopened : afterTag [] position style = .ok [Style.normalize style] := by
    rw [afterTag, hname]
    split
    · next name => exact absurd rfl hopen
    · rfl
  have hclosing : styleName ('/' :: style) = '/' :: style := by
    rw [styleName] at hname ⊢
    rw [List.takeWhile_cons_of_pos (by decide), hname]
  have hclosed : afterTag [Style.normalize style] position' ('/' :: style) = .ok [] := by
    rw [afterTag, hclosing]
    simp only [if_neg hblank, List.contains_cons, BEq.rfl, Bool.true_or, if_pos,
      List.erase_cons_head]
  simp only [faultFrom?, hopened, hclosed]

end Scaffold.Console.Markup
