import Scaffold.Execution.Attempt
import Scaffold.Proofs.FieldReading

/-!
# Guards written as a lone condition

A guard may be written as a list of conditions, or as a lone condition that stands for the list of
itself. Which of the two forms of a group a map is meant for is told by its keys alone, before
anything is read. The main statement says for which conditions the two ways of writing come to the
same guard: those that name their kind under the written spelling and have no entry `conditions`,
and those that spell the group out besides. A lone condition that names its kind under the second
spelling is read as a group without members.
-/

namespace Scaffold

open Document Schema

/-- A map that is taken for a lone condition where a group is read. -/
def Condition.IsShorthand (entries : Entries) : Prop :=
  Table.find? entries (.string "conditions") = none ∧
    (Table.find? entries (.string "type")).isSome = true

/-- A map that spells out the group of one condition, which has to pass. -/
def Condition.IsSpelledOut (c : Condition) (entries : Entries) : Prop :=
  (∃ v, Table.find? entries (.string "conditions") = some (.list [v]) ∧
      Condition.read v = .valid c) ∧
    ∀ v, Table.find? entries (.string "logic") = some v → text v = .valid "AND"

/-- The document of an instruction whose guard is written in the given way. -/
def Instruction.guardedBy (fields : Entries) (guard : Value) : Value :=
  .map (Table.insert fields (.string "condition") guard)

/-! ### Groups -/

section Group

variable {c : Condition} {entries : Entries} {v : Value}

lemma readLogic_eq_all_iff :
    choice (wordsOf Logic.word Logic.list) v = .valid .all ↔ text v = .valid "AND" := by
  have hword (word : String) :
      Table.find? (wordsOf Logic.word Logic.list) word = some .all ↔ word = "AND" := by
    simp only [wordsOf, Logic.list, Logic.word, List.map_cons, List.map_nil, Table.find?,
      beq_iff_eq]
    by_cases hand : "AND" = word
    · simp [hand]
    · by_cases hor : "OR" = word
      · simp [← hor]
      · simp [hand, hor, Ne.symm hand]
  simp [choice_eq_valid_iff, hword]

lemma readMembers_eq_singleton_iff :
    list .notTuple Condition.read v = .valid [c] ↔
      ∃ u, v = .list [u] ∧ Condition.read u = .valid c := by
  cases v with
  | list items =>
    cases items with
    | nil => simp [list, Checked.items]
    | cons u rest =>
      cases rest with
      | nil =>
        simp only [list, Checked.items, Checked.seq_eq_valid_iff, Checked.map_eq_valid_iff,
          Checked.within_eq_valid_iff, Value.list.injEq, List.cons.injEq, and_true]
        constructor
        · rintro ⟨_, _, ⟨a, ha, rfl⟩, hnil, h⟩
          obtain rfl := Checked.valid.inj hnil
          obtain ⟨rfl, -⟩ := List.cons.inj h
          exact ⟨u, rfl, ha⟩
        · rintro ⟨_, rfl, hu⟩
          exact ⟨_, [], ⟨c, hu, rfl⟩, rfl, rfl⟩
      | cons w more =>
        refine iff_of_false ?_ (by simp)
        simp only [list, Checked.items, Checked.seq_eq_valid_iff, Checked.map_eq_valid_iff]
        rintro ⟨_, _, ⟨a, -, rfl⟩, ⟨_, _, ⟨b, -, rfl⟩, -, rfl⟩, h⟩
        exact List.cons_ne_nil _ _ (List.cons.inj h).2
  | set items =>
    -- The items of a set are scalars, and no scalar is a condition.
    refine iff_of_false (fun hread => ?_) (by simp)
    obtain ⟨u, hu, hc⟩ := Checked.exists_mem_of_items hread c List.mem_cons_self
    obtain ⟨s, -, rfl⟩ := List.mem_map.mp hu
    cases hc
  | scalar s => simp [list, Checked.fail]
  | map entries => simp [list, Checked.fail]

lemma expand_of_isShorthand (h : Condition.IsShorthand entries) :
    ConditionGroup.expand (.map entries) = ConditionGroup.expand (.list [.map entries]) := by
  simp [ConditionGroup.expand, h.1, h.2]

lemma expand_of_not_isShorthand (h : ¬Condition.IsShorthand entries) :
    ConditionGroup.expand (.map entries) = .map entries := by
  rw [ConditionGroup.expand, if_neg]
  intro hkeys
  rw [Bool.and_eq_true, Bool.not_eq_true', Option.isSome_eq_false_iff,
    Option.isNone_iff_eq_none] at hkeys
  exact h hkeys

lemma readFields_eq_singleton_iff :
    ConditionGroup.readFields entries = .valid ⟨[c], .all⟩ ↔ c.IsSpelledOut entries := by
  have hmembers : optional entries (.single "conditions") [] (list .notTuple Condition.read) =
      .valid [c] ↔ ∃ v, Table.find? entries (.string "conditions") = some (.list [v]) ∧
        Condition.read v = .valid c := by
    rw [Schema.optional, FieldName.given?, FieldName.single]
    cases Table.find? entries (.string "conditions") with
    | none => simp
    | some v => simp [Checked.within_eq_valid_iff, readMembers_eq_singleton_iff]
  have hlogic : optional entries (.single "logic") .all (choice (wordsOf Logic.word Logic.list)) =
      .valid .all ↔ ∀ v, Table.find? entries (.string "logic") = some v → text v = .valid "AND" := by
    rw [Schema.optional, FieldName.given?, FieldName.single]
    cases Table.find? entries (.string "logic") with
    | none => simp
    | some v => simp [Checked.within_eq_valid_iff, readLogic_eq_all_iff]
  rw [Condition.IsSpelledOut, ← hmembers, ← hlogic, ConditionGroup.readFields]
  simp only [Checked.seq_eq_valid_iff, Checked.map_eq_valid_iff]
  constructor
  · rintro ⟨_, logic, ⟨members, hm, rfl⟩, hl, h⟩
    obtain ⟨rfl, rfl⟩ := ConditionGroup.mk.inj h
    exact ⟨hm, hl⟩
  · rintro ⟨hm, hl⟩
    exact ⟨_, _, ⟨_, hm, rfl⟩, hl, rfl⟩

/-- The list of one condition is the group of it. -/
lemma read_singleton (hv : Condition.read v = .valid c) :
    ConditionGroup.read (.list [v]) = .valid ⟨[c], .all⟩ := by
  have hspelled : c.IsSpelledOut [(.string "conditions", .list [v])] := by
    refine ⟨⟨v, ?_, hv⟩, ?_⟩
    · rw [Table.find?, if_pos (beq_string_iff.mpr rfl)]
    · intro u hu
      rw [Table.find?, if_neg (by simp [beq_string_iff])] at hu
      cases hu
  exact readFields_eq_singleton_iff.mpr hspelled

/-- A lone condition is read as the group of itself exactly if its keys show it for one, or if it
spells that group out. -/
theorem read_map_eq_singleton_iff (hc : Condition.read (.map entries) = .valid c) :
    ConditionGroup.read (.map entries) = .valid ⟨[c], .all⟩ ↔
      Condition.IsShorthand entries ∨ c.IsSpelledOut entries := by
  by_cases hshort : Condition.IsShorthand entries
  · have hlist := read_singleton hc
    rw [ConditionGroup.read, ← expand_of_isShorthand hshort] at hlist
    exact iff_of_true hlist (.inl hshort)
  · rw [ConditionGroup.read, expand_of_not_isShorthand hshort, Schema.record,
      readFields_eq_singleton_iff]
    simp [hshort]

/-- A map with the keys of neither form of a group is read as a group without members. -/
lemma read_map_of_no_keys {logic : Logic}
    (hconditions : Table.find? entries (.string "conditions") = none)
    (htype : Table.find? entries (.string "type") = none)
    (hlogic : optional entries (.single "logic") .all (choice (wordsOf Logic.word Logic.list)) =
      .valid logic) :
    ConditionGroup.read (.map entries) = .valid ⟨[], logic⟩ := by
  have hshort : ¬Condition.IsShorthand entries := by
    rintro ⟨-, h⟩
    rw [htype] at h
    cases h
  rw [ConditionGroup.read, expand_of_not_isShorthand hshort, Schema.record,
    ConditionGroup.readFields, hlogic, Schema.optional, FieldName.given?, FieldName.single,
    hconditions]
  rfl

end Group

/-! ### Instructions -/

section Instruction

variable {fields : Entries} {guard : Value} {i : Instruction}

/-- All of an instruction but its guard. -/
def Instruction.readUnguarded (fields : Entries) : Checked (Option ConditionGroup → Instruction) :=
  Instruction.mk
    <$> required fields (.single "path") Schema.text
    <*> required fields (.single "action") (choice (wordsOf Action.word Action.list))
    <*> optional fields (.single "content") none (nullable Schema.text)
    <*> optional fields (.single "pattern") none (nullable Schema.text)
    <*> optional fields (.single "replacement") none (nullable Schema.text)
    <*> optional fields ⟨"componentName", "component_name"⟩ none (nullable Schema.text)
    <*> optional fields ⟨"propName", "prop_name"⟩ none (nullable Schema.text)
    <*> optional fields ⟨"propValue", "prop_value"⟩ none (nullable Schema.text)

lemma read_guardedBy :
    Instruction.read (Instruction.guardedBy fields guard) =
      Instruction.readUnguarded fields <*>
        (nullable ConditionGroup.read guard).within (.field "condition") := by
  rw [Instruction.guardedBy, Instruction.read, Schema.record, Instruction.readFields,
    optional_insert_self]
  simp [Instruction.readUnguarded, required_insert_of_ne, optional_insert_of_ne, FieldName.single]

lemma condition_of_readUnguarded {h : Option ConditionGroup → Instruction}
    (hread : Instruction.readUnguarded fields = .valid h) (g : Option ConditionGroup) :
    (h g).condition = g ∧ ∀ g', { h g with condition := g' } = h g' := by
  simp only [Instruction.readUnguarded, Checked.seq_eq_valid_iff, Checked.map_eq_valid_iff] at hread
  obtain ⟨_, _, ⟨_, _, ⟨_, _, ⟨_, _, ⟨_, _, ⟨_, _, ⟨_, _, ⟨_, -, rfl⟩, -, rfl⟩, -, rfl⟩, -, rfl⟩, -,
    rfl⟩, -, rfl⟩, -, rfl⟩, -, rfl⟩ := hread
  exact ⟨rfl, fun _ => rfl⟩

/-- What an instruction is read as if its guard is written in a way that can be read. -/
lemma read_guardedBy_of_valid {g : ConditionGroup} (hguard : guard.isNull = false)
    (hg : ConditionGroup.read guard = .valid g) :
    Instruction.read (Instruction.guardedBy fields guard) = .valid i ↔
      ∃ h, Instruction.readUnguarded fields = .valid h ∧ h (some g) = i := by
  rw [read_guardedBy, nullable, hguard, if_neg Bool.false_ne_true, hg]
  simp [Checked.seq_eq_valid_iff]

/-- An instruction that is guarded by the list of one condition has the group of it for a guard. It
is read as the same instruction from the lone condition exactly if the condition is shorthand for
the list or spells the group out. If the lone condition has the keys of neither form of a group, the
guard has no members. -/
theorem Instruction.read_guardedBy_lone_iff {c : Condition} {entries : Entries}
    (hc : Condition.read (.map entries) = .valid c)
    (hi : Instruction.read (Instruction.guardedBy fields (.list [.map entries])) = .valid i) :
    i.condition = some ⟨[c], .all⟩ ∧
      (Instruction.read (Instruction.guardedBy fields (.map entries)) = .valid i ↔
        Condition.IsShorthand entries ∨ c.IsSpelledOut entries) ∧
      (Table.find? entries (.string "conditions") = none →
        Table.find? entries (.string "type") = none →
        ∀ logic, optional entries (.single "logic") .all (choice (wordsOf Logic.word Logic.list)) =
            .valid logic →
          Instruction.read (Instruction.guardedBy fields (.map entries)) =
            .valid { i with condition := some ⟨[], logic⟩ }) := by
  obtain ⟨h, hread, rfl⟩ := (read_guardedBy_of_valid rfl (read_singleton hc)).mp hi
  have hcondition : ∀ g, (h g).condition = g := fun g => (condition_of_readUnguarded hread g).1
  refine ⟨hcondition _, ?_, ?_⟩
  · rw [← read_map_eq_singleton_iff hc]
    constructor
    · intro hlone
      rw [read_guardedBy, Checked.seq_eq_valid_iff] at hlone
      obtain ⟨h', g, hread', hg, heq⟩ := hlone
      obtain rfl : h = h' := Checked.valid.inj (hread.symm.trans hread')
      obtain rfl : g = some ⟨[c], .all⟩ := by rw [← hcondition g, heq, hcondition]
      rw [Checked.within_eq_valid_iff, nullable, if_neg (by simp [Value.isNull]),
        Checked.map_eq_valid_iff] at hg
      obtain ⟨g, hg, hsome⟩ := hg
      rwa [Option.some.inj hsome] at hg
    · intro hg
      exact (read_guardedBy_of_valid rfl hg).mpr ⟨h, hread, rfl⟩
  · intro hconditions htype logic hlogic
    have hg := read_map_of_no_keys hconditions htype hlogic
    rw [(condition_of_readUnguarded hread _).2]
    exact (read_guardedBy_of_valid rfl hg).mpr ⟨h, hread, rfl⟩

/-- A condition under the second spelling: the list of it is a guard, and it alone is none. -/
theorem Instruction.read_guardedBy_lone_of_second :
    let entries : Entries :=
      [(.string "kind", .string "MODULE_EXISTS"), (.string "value", .string "other")]
    let fields : Entries :=
      [(.string "path", .string "a.txt"), (.string "action", .string "DELETE_FILE")]
    let c : Condition := ⟨.moduleExists, some "other", none, none, none⟩
    let i : Instruction :=
      ⟨"a.txt", .deleteFile, none, none, none, none, none, none, some ⟨[c], .all⟩⟩
    Condition.read (.map entries) = .valid c ∧
      Instruction.read (Instruction.guardedBy fields (.list [.map entries])) = .valid i ∧
      Instruction.read (Instruction.guardedBy fields (.map entries)) =
        .valid { i with condition := some ⟨[], .all⟩ } := by
  intro entries fields c i
  have hc : Condition.read (.map entries) = .valid c := by rfl
  have hi : Instruction.read (Instruction.guardedBy fields (.list [.map entries])) = .valid i := by
    rfl
  exact ⟨hc, hi, (read_guardedBy_lone_iff hc hi).2.2 rfl rfl .all rfl⟩

/-- On a project without the module that it asks for, an instruction is passed over if the condition
stands in a list, and carried out if it stands alone. -/
theorem Instruction.not_read_guardedBy_lone :
    let entries : Entries :=
      [(.string "kind", .string "MODULE_EXISTS"), (.string "value", .string "other")]
    let fields : Entries :=
      [(.string "path", .string "a.txt"), (.string "action", .string "CREATE_FILE"),
        (.string "content", .string "x")]
    let context : Context := ⟨[], ["proj"], "shop", "auth", false⟩
    let s : Site := ⟨⟨[(["proj"], .directory)]⟩, ⟨1000, 1⟩, []⟩
    ∃ c i j, Condition.read (.map entries) = .valid c ∧
      Instruction.read (Instruction.guardedBy fields (.list [.map entries])) = .valid i ∧
      Instruction.read (Instruction.guardedBy fields (.map entries)) = .valid j ∧ i ≠ j ∧
      ((i.apply none context 0).outcome s).1.toOption.map Report.outcome = some .skipped ∧
      ((j.apply none context 0).outcome s).1.toOption.map Report.outcome = some .executed := by
  intro entries fields context s
  refine ⟨_, _, _, rfl, rfl, rfl, ?_, ?_, ?_⟩
  · decide
  · decide +kernel
  · decide +kernel

end Instruction

end Scaffold
