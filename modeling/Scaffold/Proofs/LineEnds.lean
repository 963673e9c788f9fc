import Mathlib.Tactic.Lemma
import Scaffold.Text.Lines

/-!
# Line ends

Reading turns every line end into a line feed, so that a text is read as it is exactly if there is
no carriage return in it. Joining lists of lines puts one line feed between what they are joined to.
-/

namespace Scaffold.Text

lemma not_mem_unifyLineEnds (t : List Char) : '\r' ∉ unifyLineEnds t := by
  induction t using unifyLineEnds.induct with
  | case1 rest ih => simpa [unifyLineEnds] using ih
  | case2 c rest h ih =>
    rw [unifyLineEnds.eq_2 _ _ h, List.mem_cons, not_or]
    refine ⟨?_, ih⟩
    split
    · decide
    · next hc => exact Ne.symm hc
  | case3 => simp [unifyLineEnds]

lemma unifyLineEnds_of_not_mem {t : List Char} (h : '\r' ∉ t) : unifyLineEnds t = t := by
  induction t with
  | nil => rfl
  | cons c rest ih =>
    rw [List.mem_cons, not_or] at h
    have hc : c ≠ '\r' := Ne.symm h.1
    rw [unifyLineEnds.eq_2 _ _ fun _ hr => absurd hr hc, if_neg hc, ih h.2]

/-- Reading keeps a text as it is exactly if it has no carriage return. -/
lemma unifyLineEnds_eq_self_iff {t : List Char} : unifyLineEnds t = t ↔ '\r' ∉ t := by
  constructor
  · intro h
    rw [← h]
    exact not_mem_unifyLineEnds t
  · exact unifyLineEnds_of_not_mem

lemma joinLines_cons {line : List Char} {ls : List (List Char)} (h : ls ≠ []) :
    joinLines (line :: ls) = line ++ '\n' :: joinLines ls := by
  cases ls with
  | nil => exact absurd rfl h
  | cons next more => rfl

lemma joinLines_append {ls ms : List (List Char)} (hl : ls ≠ []) (hm : ms ≠ []) :
    joinLines (ls ++ ms) = joinLines ls ++ '\n' :: joinLines ms := by
  induction ls with
  | nil => exact absurd rfl hl
  | cons line rest ih =>
    cases rest with
    | nil => exact joinLines_cons hm
    | cons next more =>
      have hne : next :: more ≠ [] := List.cons_ne_nil next more
      rw [List.cons_append, joinLines_cons (List.append_ne_nil_of_left_ne_nil hne ms), ih hne,
        joinLines_cons hne, List.append_assoc, List.cons_append]

end Scaffold.Text
