import Mathlib.Data.List.Induction
import Mathlib.Data.List.Perm.Subperm
import Mathlib.Tactic.Lemma
import Scaffold.Table

/-!
# The keys of a table

Putting a key in adds it at the end, unless the table has it. So no two keys of a table that is made
by putting in pairs are the same, and a table whose pairs have different keys is the list of its
pairs. A key stands for what it was put in with last.
-/

namespace Scaffold.Table

section Keys

variable {κ α : Type} [BEq κ]

/-- No key of the table is the same as a later one. -/
def HasDistinctKeys (t : Table κ α) : Prop := (keys t).Pairwise fun k l => (k == l) = false

lemma insert_of_forall_ne {t : Table κ α} {k : κ} (a : α)
    (h : ∀ key ∈ keys t, (key == k) = false) : insert t k a = t ++ [(k, a)] := by
  induction t with
  | nil => rfl
  | cons pair rest ih =>
    obtain ⟨key, b⟩ := pair
    obtain ⟨hkey, hrest⟩ := List.forall_mem_cons.mp h
    have hne : ¬(key == k) = true := by simpa using hkey
    rw [insert, if_neg hne, ih hrest, List.cons_append]

lemma keys_insert_of_mem {t : Table κ α} {k : κ} (a : α) (h : ∃ key ∈ keys t, (key == k) = true) :
    keys (insert t k a) = keys t := by
  induction t with
  | nil => simp [keys] at h
  | cons pair rest ih =>
    obtain ⟨key, b⟩ := pair
    rw [insert]
    split
    · rfl
    · next hne =>
      have hrest : ∃ key ∈ keys rest, (key == k) = true := by
        simpa [keys, hne] using h
      exact congrArg (key :: ·) (ih hrest)

/-- The keys after another one is put in. -/
lemma keys_insert_cases (t : Table κ α) (k : κ) (a : α) :
    (∃ key ∈ keys t, (key == k) = true) ∧ keys (insert t k a) = keys t ∨
      (∀ key ∈ keys t, (key == k) = false) ∧ keys (insert t k a) = keys t ++ [k] := by
  by_cases h : ∃ key ∈ keys t, (key == k) = true
  · exact .inl ⟨h, keys_insert_of_mem a h⟩
  · have hnew : ∀ key ∈ keys t, (key == k) = false := by simpa using h
    refine .inr ⟨hnew, ?_⟩
    rw [insert_of_forall_ne a hnew, keys, List.map_append]
    rfl

lemma HasDistinctKeys.insert {t : Table κ α} (h : HasDistinctKeys t) (k : κ) (a : α) :
    HasDistinctKeys (insert t k a) := by
  unfold HasDistinctKeys
  rcases keys_insert_cases t k a with ⟨-, hkeys⟩ | ⟨hnew, hkeys⟩
  · rw [hkeys]
    exact h
  · rw [hkeys, List.pairwise_append]
    refine ⟨h, List.pairwise_singleton _ _, fun key hkey last hlast => ?_⟩
    rw [List.mem_singleton.mp hlast]
    exact hnew key hkey

lemma ofPairs_concat (pairs : List (κ × α)) (k : κ) (a : α) :
    ofPairs (pairs ++ [(k, a)]) = insert (ofPairs pairs) k a := by
  unfold ofPairs
  rw [List.foldl_append]
  rfl

lemma hasDistinctKeys_ofPairs (pairs : List (κ × α)) : HasDistinctKeys (ofPairs pairs) := by
  induction pairs using List.reverseRecOn with
  | nil => exact List.Pairwise.nil
  | append_singleton pairs pair ih =>
    obtain ⟨k, a⟩ := pair
    rw [ofPairs_concat]
    exact ih.insert k a

lemma HasDistinctKeys.ofPairs_eq_self {pairs : List (κ × α)} (h : HasDistinctKeys pairs) :
    ofPairs pairs = pairs := by
  induction pairs using List.reverseRecOn with
  | nil => rfl
  | append_singleton pairs pair ih =>
    obtain ⟨k, a⟩ := pair
    rw [HasDistinctKeys, keys, List.map_append, List.pairwise_append] at h
    obtain ⟨hdistinct, -, hlast⟩ := h
    rw [ofPairs_concat, ih hdistinct]
    exact insert_of_forall_ne a fun key hkey => hlast key hkey k (List.mem_singleton_self k)

end Keys

section Lawful

variable {κ α : Type} [BEq κ] [LawfulBEq κ] {t : Table κ α} {pairs : List (κ × α)}

lemma hasDistinctKeys_iff_nodup : HasDistinctKeys t ↔ (keys t).Nodup := by
  simp only [HasDistinctKeys, List.Nodup, beq_eq_false_iff_ne]

lemma nodup_keys_ofPairs (pairs : List (κ × α)) : (keys (ofPairs pairs)).Nodup :=
  hasDistinctKeys_iff_nodup.mp (hasDistinctKeys_ofPairs pairs)

lemma isSome_find?_iff {k : κ} : (find? t k).isSome = true ↔ k ∈ keys t := by
  induction t with
  | nil => simp [find?, keys]
  | cons pair rest ih =>
    obtain ⟨key, a⟩ := pair
    rw [keys, List.map_cons, List.mem_cons, ← keys, ← ih, find?]
    split
    · next hkey => simp [beq_iff_eq.mp hkey]
    · next hne =>
      rw [or_iff_right]
      rintro rfl
      exact hne (beq_self_eq_true k)

lemma find?_of_mem (h : (keys t).Nodup) {pair : κ × α} (hpair : pair ∈ t) :
    find? t pair.1 = some pair.2 := by
  induction t with
  | nil => cases hpair
  | cons first rest ih =>
    obtain ⟨key, a⟩ := first
    obtain ⟨hkey, hrest⟩ := List.nodup_cons.mp h
    rw [find?]
    rcases List.mem_cons.mp hpair with rfl | hmem
    · rw [if_pos (beq_self_eq_true key)]
    · rw [if_neg, ih hrest hmem]
      rintro heq
      rw [beq_iff_eq] at heq
      exact hkey (List.mem_map.mpr ⟨pair, hmem, heq.symm⟩)

lemma ofPairs_eq_self (h : (keys pairs).Nodup) : ofPairs pairs = pairs :=
  (hasDistinctKeys_iff_nodup.mpr h).ofPairs_eq_self

lemma keys_ofPairs (pairs : List (κ × α)) : keys (ofPairs pairs) = (keys pairs).eraseDups := by
  induction pairs using List.reverseRecOn with
  | nil => rfl
  | append_singleton pairs pair ih =>
    obtain ⟨k, a⟩ := pair
    have hkeys : keys (pairs ++ [(k, a)]) = keys pairs ++ [k] := List.map_append
    rw [ofPairs_concat, hkeys, List.eraseDups_append, ← ih]
    rcases keys_insert_cases (ofPairs pairs) k a with ⟨⟨key, hkey, hsame⟩, heq⟩ | ⟨hnew, heq⟩
    · obtain rfl := beq_iff_eq.mp hsame
      rw [ih, List.mem_eraseDups] at hkey
      simp [heq, List.removeAll, hkey]
    · have hk : k ∉ keys pairs := by
        rw [← List.mem_eraseDups, ← ih]
        exact fun hmem => by simpa using hnew k hmem
      simp [heq, List.removeAll, hk, List.eraseDups_cons]

/-- A table has as many keys as pairs are put in only if these have different keys. -/
lemma length_ofPairs_iff : (ofPairs pairs).length = pairs.length ↔ (keys pairs).Nodup := by
  refine ⟨fun h => ?_, fun h => by rw [ofPairs_eq_self h]⟩
  have hnodup := nodup_keys_ofPairs pairs
  have hsubset : keys (ofPairs pairs) ⊆ keys pairs := by
    intro k hk
    rwa [keys_ofPairs, List.mem_eraseDups] at hk
  have hlength : (keys pairs).length ≤ (keys (ofPairs pairs)).length := by
    simp [keys, h]
  exact ((hnodup.subperm hsubset).perm_of_length_le hlength).nodup_iff.mp hnodup

/-- A key stands for what it was put in with last. -/
lemma find?_ofPairs_iff [DecidableEq κ] {k : κ} {a : α} :
    find? (ofPairs pairs) k = some a ↔
      ∃ before after, pairs = before ++ (k, a) :: after ∧ k ∉ keys after := by
  induction pairs using List.reverseRecOn with
  | nil => simp [ofPairs, find?]
  | append_singleton pairs pair ih =>
    obtain ⟨l, b⟩ := pair
    rw [ofPairs_concat, find?_insert]
    constructor
    · intro h
      split at h
      · next hsame =>
        obtain rfl := Option.some.inj h
        exact ⟨pairs, [], by rw [hsame], List.not_mem_nil⟩
      · next hne =>
        obtain ⟨before, after, rfl, hafter⟩ := ih.mp h
        refine ⟨before, after ++ [(l, b)], List.append_assoc _ _ _, fun hmem => ?_⟩
        rw [keys, List.map_append, List.mem_append] at hmem
        rcases hmem with hmem | hlast
        · exact hafter hmem
        · exact hne (List.mem_singleton.mp hlast).symm
    · rintro ⟨before, after, heq, hafter⟩
      rcases List.eq_nil_or_concat after with rfl | ⟨after, last, rfl⟩
      · obtain ⟨-, hlast⟩ := List.append_inj' heq rfl
        cases hlast
        rw [if_pos rfl]
      · rw [List.concat_eq_append, ← List.cons_append, ← List.append_assoc] at heq
        obtain ⟨rfl, hlast⟩ := List.append_inj' heq rfl
        cases hlast
        rw [List.concat_eq_append, keys, List.map_append, List.mem_append, not_or] at hafter
        rw [if_neg fun hsame => hafter.2 (List.mem_singleton.mpr hsame.symm)]
        exact ih.mpr ⟨before, after, rfl, hafter.1⟩

end Lawful

end Scaffold.Table
