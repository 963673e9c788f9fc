import Mathlib.Data.List.Basic
import Scaffold.Catalog.Instruction
import Scaffold.Document.Depth

/-!
# The depth of snapshots

An instruction as the log keeps it is nested five deep at most: the instruction, its guard, the
members of the guard, a member, and the fields of a member.
-/

namespace Scaffold.Document.Value

lemma depthOfItems_le {items : List Value} {n : Nat} (h : ∀ v ∈ items, v.depth ≤ n) :
    depthOfItems items ≤ n := by
  induction items with
  | nil => exact Nat.zero_le n
  | cons v rest ih =>
    obtain ⟨hv, hrest⟩ := List.forall_mem_cons.mp h
    exact Nat.max_le.mpr ⟨hv, ih hrest⟩

lemma depthOfEntries_le {entries : List (Scalar × Value)} {n : Nat}
    (h : ∀ pair ∈ entries, pair.2.depth ≤ n) : depthOfEntries entries ≤ n := by
  induction entries with
  | nil => exact Nat.zero_le n
  | cons pair rest ih =>
    obtain ⟨hpair, hrest⟩ := List.forall_mem_cons.mp h
    exact Nat.max_le.mpr ⟨hpair, ih hrest⟩

lemma depth_list_le {items : List Value} {n : Nat} (h : ∀ v ∈ items, v.depth ≤ n) :
    (Value.list items).depth ≤ n + 1 := by
  rw [depth]
  exact Nat.succ_le_succ (depthOfItems_le h)

lemma depth_record_le {fields : List (String × Value)} {n : Nat}
    (h : ∀ field ∈ fields, field.2.depth ≤ n) : (record fields).depth ≤ n + 1 := by
  rw [record, depth]
  refine Nat.succ_le_succ (depthOfEntries_le fun pair hpair => ?_)
  obtain ⟨field, hfield, rfl⟩ := List.mem_map.mp hpair
  exact h field hfield

lemma depth_prunedRecord_le {fields : List (String × Value)} {n : Nat}
    (h : ∀ field ∈ fields, field.2.depth ≤ n) : (prunedRecord fields).depth ≤ n + 1 :=
  depth_record_le fun field hfield => h field (List.mem_of_mem_filter hfield)

@[simp] lemma depth_string? (s : Option String) : (string? s).depth = 1 := by
  cases s <;> simp [string?, depth]

end Scaffold.Document.Value

namespace Scaffold
open Document

lemma Condition.depth_snapshot_le (c : Condition) : c.snapshot.depth ≤ 2 := by
  refine Value.depth_prunedRecord_le fun field hfield => ?_
  simp only [Condition.fields, List.mem_cons, List.not_mem_nil, or_false] at hfield
  rcases hfield with rfl | rfl | rfl | rfl | rfl
  · simp [Value.depth]
  · simp
  · simp
  · cases c.count <;> simp [Value.depth]
  · simp

lemma ConditionGroup.depth_snapshot_le (g : ConditionGroup) : g.snapshot.depth ≤ 4 := by
  refine Value.depth_record_le (n := 3) fun field hfield => ?_
  simp only [List.mem_cons, List.not_mem_nil, or_false] at hfield
  rcases hfield with rfl | rfl
  · refine Value.depth_list_le (n := 2) fun v hv => ?_
    obtain ⟨c, -, rfl⟩ := List.mem_map.mp hv
    exact c.depth_snapshot_le
  · simp [Value.depth]

theorem Instruction.depth_snapshot_le (i : Instruction) : i.snapshot.depth ≤ 5 := by
  refine Value.depth_prunedRecord_le (n := 4) fun field hfield => ?_
  simp only [Instruction.fields, List.mem_cons, List.not_mem_nil, or_false] at hfield
  rcases hfield with rfl | rfl | rfl | rfl | rfl | rfl | rfl | rfl | rfl
  · simp [Value.depth]
  · simp [Value.depth]
  · simp
  · simp
  · simp
  · simp
  · simp
  · simp
  · cases i.condition with
    | none => simp [Value.depth]
    | some g => exact g.depth_snapshot_le

end Scaffold
