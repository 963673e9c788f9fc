import Mathlib.Data.Finset.Card
import Mathlib.Data.List.Infix
import Mathlib.Order.Bounds.Basic
import Mathlib.Tactic.Lemma
import Scaffold.Text.Search

/-!
# What a search for a pattern finds

A pattern is searched for from the left, and what has been found is not looked at again. The pieces
into which this cuts a text are described by where the pattern is not: it does not end in a piece
with the pattern after it before the end, and it is not in the last piece. However occurrences that
do not overlap are chosen, there are never more of them than the search takes.
-/

namespace Scaffold.Text

variable {pattern t piece : List Char} {ts : List (List Char)}

/-! ### One occurrence -/

lemma afterPrefix?_append (pattern t : List Char) :
    afterPrefix? pattern (pattern ++ t) = some t := by
  induction pattern with
  | nil => rfl
  | cons p pattern ih => rw [List.cons_append, afterPrefix?, if_pos rfl, ih]

lemma afterPrefix?_eq_none_iff : afterPrefix? pattern t = none ↔ ¬ pattern <+: t := by
  constructor
  · rintro h ⟨after, rfl⟩
    rw [afterPrefix?_append] at h
    cases h
  · intro h
    refine Option.eq_none_iff_forall_ne_some.mpr fun after hafter => h ⟨after, ?_⟩
    exact (afterPrefix?_eq_some hafter).symm

lemma cut?_eq_none_iff : cut? pattern t = none ↔ ¬ pattern <:+: t := by
  induction t with
  | nil =>
    rw [cut?, Option.map_eq_none_iff, afterPrefix?_eq_none_iff, List.infix_nil, List.prefix_nil]
  | cons c t ih =>
    rw [List.infix_cons_iff, not_or, ← afterPrefix?_eq_none_iff, ← ih, cut?]
    cases afterPrefix? pattern (c :: t) <;> simp

/-- A text contains a pattern if the pattern is a stretch of it. -/
lemma contains_iff : contains pattern t = true ↔ pattern <:+: t := by
  rw [contains, ← not_iff_not, Bool.not_eq_true, Option.isSome_eq_false_iff, Option.isNone_iff_eq_none,
    cut?_eq_none_iff]

/-- What stands before the first place of a character, and what stands after it, is settled by the
text. -/
lemma append_cons_inj_of_not_mem {c : Char} {before before' after after' : List Char}
    (h : c ∉ before) (h' : c ∉ before') :
    before ++ c :: after = before' ++ c :: after' ↔ before = before' ∧ after = after' := by
  have htake : ∀ u v : List Char, c ∉ u → (u ++ c :: v).takeWhile (· != c) = u := by
    intro u v hu
    rw [List.takeWhile_append_of_pos fun x hx => bne_iff_ne.mpr (ne_of_mem_of_not_mem hx hu)]
    simp
  constructor
  · intro heq
    obtain rfl : before = before' := by rw [← htake before after h, heq, htake before' after' h']
    exact ⟨rfl, (List.cons.inj (List.append_cancel_left heq)).2⟩
  · rintro ⟨rfl, rfl⟩
    rfl

/-- A text is cut at the first place where the pattern is. -/
lemma length_le_of_cut? {after before rest : List Char} (h : cut? pattern t = some (piece, after))
    (ht : t = before ++ pattern ++ rest) : piece.length ≤ before.length := by
  induction t generalizing piece before with
  | nil =>
    obtain ⟨_, -, hpair⟩ := Option.map_eq_some_iff.mp h
    obtain ⟨rfl, -⟩ := Prod.mk.inj hpair
    exact Nat.zero_le _
  | cons c t ih =>
    rw [cut?] at h
    split at h
    · obtain ⟨rfl, -⟩ := Prod.mk.inj (Option.some.inj h)
      exact Nat.zero_le _
    · next hprefix =>
      simp only [Option.map_eq_some_iff, Prod.exists, Prod.mk.injEq] at h
      obtain ⟨piece', after', hcut, rfl, rfl⟩ := h
      cases before with
      | nil => exact absurd ⟨rest, ht.symm⟩ (afterPrefix?_eq_none_iff.mp hprefix)
      | cons b before =>
        have htail : t = before ++ pattern ++ rest := (List.cons.inj ht).2
        exact Nat.succ_le_succ (ih hcut htail)

/-- In a piece of text with a pattern after it, the pattern first occurs at the end. -/
def EndsAtFirst (pattern piece : List Char) : Prop :=
  ∀ before after, piece ++ pattern = before ++ pattern ++ after → after = []

lemma endsAtFirst_of_cut? {after : List Char} (h : cut? pattern t = some (piece, after)) :
    EndsAtFirst pattern piece := by
  intro before rest heq
  have ht : t = before ++ pattern ++ (rest ++ after) := by
    rw [cut?_eq_some h, heq, List.append_assoc _ rest]
  have hle := length_le_of_cut? h ht
  have hlength := congrArg List.length heq
  simp only [List.length_append] at hlength
  exact List.length_eq_zero_iff.mp (by omega)

/-! ### The pieces of a text -/

/-- A text is cut into pieces from the left at the occurrences of a pattern: each piece but the last
one is followed by the pattern, which ends there for the first time, and the last piece does not
contain it. -/
inductive IsCutInto (pattern : List Char) : List Char → List (List Char) → Prop
  | last {t : List Char} : ¬ pattern <:+: t → IsCutInto pattern t [t]
  | next {piece t : List Char} {ts : List (List Char)} : EndsAtFirst pattern piece →
    IsCutInto pattern t ts → IsCutInto pattern (piece ++ pattern ++ t) (piece :: ts)

lemma isCutInto_pieces (hp : pattern ≠ []) (t : List Char) :
    IsCutInto pattern t (pieces pattern t) := by
  induction t using pieces.induct pattern with
  | case1 t hcut =>
    rw [pieces]
    split
    · exact .last (cut?_eq_none_iff.mp hcut)
    · next heq => simp [hcut] at heq
  | case2 t before after hcut hnil => exact absurd hnil hp
  | case3 t before after hcut hne ih =>
    rw [pieces]
    split
    · next heq => simp [hcut] at heq
    · next b a heq =>
      obtain ⟨rfl, rfl⟩ := Prod.mk.inj (Option.some.inj (hcut.symm.trans heq))
      rw [dif_neg hne, cut?_eq_some hcut]
      exact .next (endsAtFirst_of_cut? hcut) ih

lemma glue_eq_intercalate (separator : List Char) (ts : List (List Char)) :
    glue separator ts = separator.intercalate ts := by
  induction ts with
  | nil => rfl
  | cons piece rest ih =>
    cases rest with
    | nil => exact List.intercalate_singleton.symm
    | cons next more =>
      rw [List.intercalate_cons_cons, ← ih]
      rfl

lemma length_intercalate (separator : List Char) {n : Nat} (h : ts.length = n + 1) :
    (separator.intercalate ts).length = ts.flatten.length + n * separator.length := by
  induction ts generalizing n with
  | nil => cases h
  | cons piece rest ih =>
    cases rest with
    | nil =>
      obtain rfl : n = 0 := by simpa using h.symm
      simp
    | cons next more =>
      obtain ⟨m, rfl⟩ : ∃ m, n = m + 1 := ⟨more.length, by simpa using h.symm⟩
      rw [List.intercalate_cons_cons, List.length_append, List.length_append,
        ih (Nat.succ.inj h), Nat.succ_mul]
      simp only [List.flatten_cons, List.length_append]
      omega

namespace IsCutInto

lemma ne_nil (h : IsCutInto pattern t ts) : ts ≠ [] := by
  cases h <;> exact List.cons_ne_nil _ _

/-- The pieces with the pattern between them are the text. -/
lemma intercalate_eq (h : IsCutInto pattern t ts) : t = pattern.intercalate ts := by
  induction h with
  | last _ => exact List.intercalate_singleton.symm
  | next _ hrest ih => rw [List.intercalate_cons_of_ne_nil hrest.ne_nil, ← ih]

lemma one_lt_length_iff (h : IsCutInto pattern t ts) : 1 < ts.length ↔ pattern <:+: t := by
  cases h with
  | last hno => exact iff_of_false (by simp) hno
  | next _ hrest =>
    refine iff_of_true ?_ (List.infix_append _ _ _)
    have := List.length_pos_iff.mpr hrest.ne_nil
    rw [List.length_cons]
    omega

end IsCutInto

/-! ### Occurrences that do not overlap -/

/-- Positions at which a pattern stands in a text, no two of them so close that it would overlap
itself. -/
structure AreApart (pattern t : List Char) (S : Finset Nat) : Prop where
  occurs : ∀ k ∈ S, pattern <+: t.drop k
  apart : ∀ j ∈ S, ∀ k ∈ S, j < k → j + pattern.length ≤ k

lemma areApart_empty (pattern t : List Char) : AreApart pattern t ∅ :=
  ⟨fun k hk => absurd hk (Finset.notMem_empty k), fun j hj => absurd hj (Finset.notMem_empty j)⟩

section Apart

variable {S : Finset Nat}

lemma drop_piece (piece pattern t : List Char) (k : Nat) :
    (piece ++ pattern ++ t).drop (k + (piece.length + pattern.length)) = t.drop k := by
  rw [← List.length_append, Nat.add_comm, List.drop_length_add_append]

/-- At most one of the positions lies before the end of the first occurrence. -/
lemma AreApart.card_before_le (h : AreApart pattern (piece ++ pattern ++ t) S)
    (hfirst : EndsAtFirst pattern piece) :
    (S.filter (· < piece.length + pattern.length)).card ≤ 1 := by
  -- an occurrence that ends before another one begins would be an earlier one in the piece
  have hno : ∀ j ∈ S, ∀ k ∈ S, j < k → ¬ k < piece.length + pattern.length := by
    intro j hj k hk hjk hlt
    have hend := h.apart j hj k hk hjk
    have hprefix := h.occurs j hj
    rw [List.drop_append_of_le_length (by rw [List.length_append]; omega)] at hprefix
    have hwithin : pattern <+: (piece ++ pattern).drop j :=
      List.prefix_of_prefix_length_le hprefix (List.prefix_append _ _)
        (by rw [List.length_drop, List.length_append]; omega)
    obtain ⟨rest, hrest⟩ := hwithin
    have hsplit : piece ++ pattern = (piece ++ pattern).take j ++ pattern ++ rest := by
      rw [List.append_assoc, hrest, List.take_append_drop]
    have hnil := hfirst _ _ hsplit
    have hlength := congrArg List.length hrest
    rw [hnil, List.append_nil, List.length_drop, List.length_append] at hlength
    omega
  refine Finset.card_le_one.mpr fun j hj k hk => ?_
  obtain ⟨hjS, hjlt⟩ := Finset.mem_filter.mp hj
  obtain ⟨hkS, hklt⟩ := Finset.mem_filter.mp hk
  rcases Nat.lt_trichotomy j k with hjk | rfl | hkj
  · exact absurd hklt (hno j hjS k hkS hjk)
  · rfl
  · exact absurd hjlt (hno k hkS j hjS hkj)

/-- The other positions are positions in what follows. -/
lemma AreApart.after (h : AreApart pattern (piece ++ pattern ++ t) S) :
    AreApart pattern t
      ((S.filter fun k => ¬ k < piece.length + pattern.length).image
        (· - (piece.length + pattern.length))) := by
  constructor
  · intro k hk
    obtain ⟨j, hj, rfl⟩ := Finset.mem_image.mp hk
    obtain ⟨hjS, hle⟩ := Finset.mem_filter.mp hj
    rw [← drop_piece piece pattern t, Nat.sub_add_cancel (not_lt.mp hle)]
    exact h.occurs j hjS
  · intro j hj k hk hjk
    obtain ⟨j', hj', rfl⟩ := Finset.mem_image.mp hj
    obtain ⟨k', hk', rfl⟩ := Finset.mem_image.mp hk
    obtain ⟨hjS, hjle⟩ := Finset.mem_filter.mp hj'
    obtain ⟨hkS, hkle⟩ := Finset.mem_filter.mp hk'
    have := h.apart j' hjS k' hkS (by omega)
    omega

lemma AreApart.card_le (h : AreApart pattern t S) (hcut : IsCutInto pattern t ts) :
    S.card + 1 ≤ ts.length := by
  induction hcut generalizing S with
  | last hno =>
    have hempty : S = ∅ := Finset.eq_empty_of_forall_notMem fun k hk =>
      hno ((h.occurs k hk).isInfix.trans (List.drop_suffix _ _).isInfix)
    rw [hempty, Finset.card_empty, List.length_singleton]
  | @next piece t ts hfirst _ ih =>
    have hbefore := h.card_before_le hfirst
    have hafter := ih h.after
    rw [Finset.card_image_of_injOn] at hafter
    · have hsum := Finset.card_filter_add_card_filter_not (s := S)
        (· < piece.length + pattern.length)
      rw [List.length_cons]
      omega
    · intro j hj k hk hjk
      have hjle := (Finset.mem_filter.mp hj).2
      have hkle := (Finset.mem_filter.mp hk).2
      dsimp only at hjk
      omega

/-- Positions in what follows the first occurrence, together with that one. -/
lemma AreApart.insert_piece (hp : pattern ≠ []) (h : AreApart pattern t S) (piece : List Char) :
    ∃ S', AreApart pattern (piece ++ pattern ++ t) S' ∧ S'.card = S.card + 1 := by
  have hpos := List.length_pos_iff.mpr hp
  set shifted := S.image (· + (piece.length + pattern.length)) with hshifted
  have hmem : ∀ k ∈ shifted, ∃ j ∈ S, k = j + (piece.length + pattern.length) := by
    intro k hk
    obtain ⟨j, hj, rfl⟩ := Finset.mem_image.mp hk
    exact ⟨j, hj, rfl⟩
  refine ⟨insert piece.length shifted, ⟨?_, ?_⟩, ?_⟩
  · intro k hk
    rcases Finset.mem_insert.mp hk with rfl | hk
    · rw [List.append_assoc, List.drop_append_length]
      exact List.prefix_append _ _
    · obtain ⟨j, hj, rfl⟩ := hmem k hk
      rw [drop_piece]
      exact h.occurs j hj
  · intro j hj k hk hjk
    rcases Finset.mem_insert.mp hk with rfl | hk
    · rcases Finset.mem_insert.mp hj with rfl | hj
      · exact absurd hjk (lt_irrefl _)
      · obtain ⟨j', -, rfl⟩ := hmem j hj
        omega
    · obtain ⟨k', hk', rfl⟩ := hmem k hk
      rcases Finset.mem_insert.mp hj with rfl | hj
      · omega
      · obtain ⟨j', hj', rfl⟩ := hmem j hj
        have := h.apart j' hj' k' hk' (by omega)
        omega
  · have hnew : piece.length ∉ shifted := by
      intro hk
      obtain ⟨j, -, heq⟩ := hmem _ hk
      omega
    rw [Finset.card_insert_of_notMem hnew, hshifted,
      Finset.card_image_of_injective _ fun _ _ => Nat.add_right_cancel]

/-- The search takes as many occurrences as there are pieces before the last one. -/
lemma exists_areApart (hp : pattern ≠ []) (hcut : IsCutInto pattern t ts) :
    ∃ S, AreApart pattern t S ∧ S.card + 1 = ts.length := by
  induction hcut with
  | last _ => exact ⟨∅, areApart_empty _ _, rfl⟩
  | @next piece t ts _ _ ih =>
    obtain ⟨S, hS, hcard⟩ := ih
    obtain ⟨S', hS', hcard'⟩ := hS.insert_piece hp piece
    exact ⟨S', hS', by rw [hcard', hcard, List.length_cons]⟩

end Apart

/-- No choice of occurrences that do not overlap has more of them than the search takes. -/
lemma isGreatest_card_areApart (hp : pattern ≠ []) {n : Nat} (hcut : IsCutInto pattern t ts)
    (hlength : ts.length = n + 1) : IsGreatest {m | ∃ S, AreApart pattern t S ∧ S.card = m} n := by
  constructor
  · obtain ⟨S, hS, hcard⟩ := exists_areApart hp hcut
    exact ⟨S, hS, by omega⟩
  · rintro m ⟨S, hS, rfl⟩
    have := hS.card_le hcut
    omega

end Scaffold.Text
