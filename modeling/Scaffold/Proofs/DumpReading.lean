import Scaffold.Catalog.Context
import Scaffold.Catalog.Template
import Scaffold.Proofs.PathText
import Scaffold.Proofs.RecordRoundTrip
import Scaffold.Settings

/-!
# Documents read from dumps

What has been read from a document is written as a document that is read as the same. The document
need not be the first one: spellings, shorthands and absent parts are settled when it is read, so
that a second reading has nothing left to settle.

Each kind of part is shown to be read from its own document, under what reading has ensured of it.
-/

namespace Scaffold

open Document Schema

/-! ### Guards -/

lemma choice_kind (k : ConditionKind) :
    choice (wordsOf ConditionKind.word ConditionKind.list) (.string k.word) = .valid k := by
  cases k <;> rfl

lemma choice_comparison (o : Comparison) :
    choice (wordsOf Comparison.word Comparison.list) (.string o.word) = .valid o := by
  cases o <;> rfl

lemma choice_logic (l : Logic) :
    choice (wordsOf Logic.word Logic.list) (.string l.word) = .valid l := by
  cases l <;> rfl

namespace Condition

variable (c : Condition)

lemma readFields_fields : readFields (entriesOf c.fields) = .valid c := by
  have hvalue := nullable_text_string? c.value
  have htarget := nullable_text_string? c.target
  have hcount : nullable integer ((c.count.map Value.int).getD .null) = .valid c.count :=
    nullable_getD c.count (fun _ _ => rfl) fun _ _ => rfl
  have hoperator : nullable (choice (wordsOf Comparison.word Comparison.list))
      (.string? (c.operator.map Comparison.word)) = .valid c.operator := by
    rw [Value.string?, Option.map_map]
    exact nullable_getD c.operator (fun _ _ => rfl) fun o _ => choice_comparison o
  simp [readFields, fields, required, Schema.optional, FieldName.given?, FieldName.single,
    choice_kind, hvalue, htarget, hcount, hoperator]

lemma readFields_present :
    readFields (entriesOf (Value.present c.fields)) = readFields (entriesOf c.fields) := by
  have hnames : (c.fields.map Prod.fst).Nodup := by
    simp [fields]
  rw [readFields, readFields]
  simp (disch := simp [fields, FieldName.given?, FieldName.single, Value.isNull]) only
    [required_present hnames, optional_present hnames]

lemma read_toValue : read c.toValue = .valid c := c.readFields_fields

lemma read_snapshot : read c.snapshot = .valid c := by
  rw [read, snapshot, Value.prunedRecord, record_entriesOf, readFields_present, readFields_fields]

end Condition

namespace ConditionGroup

/-- A group written in full is read as the group, however its members are written. -/
lemma read_record (g : ConditionGroup) {write : Condition → Value}
    (h : ∀ c, Condition.read (write c) = .valid c) :
    read (Value.record [("conditions", .list (g.conditions.map write)),
      ("logic", .string g.logic.word)]) = .valid g := by
  have hmembers : Schema.list .notTuple Condition.read (.list (g.conditions.map write)) =
      .valid g.conditions := Checked.items_map fun c _ => h c
  have hexpand (members : Value) (logic : String) :
      expand (Value.record [("conditions", members), ("logic", .string logic)]) =
        Value.record [("conditions", members), ("logic", .string logic)] := rfl
  rw [read, hexpand, record_entriesOf]
  simp [readFields, Schema.optional, FieldName.given?, FieldName.single, hmembers, choice_logic]

lemma read_toValue (g : ConditionGroup) : read g.toValue = .valid g :=
  g.read_record Condition.read_toValue

lemma read_snapshot (g : ConditionGroup) : read g.snapshot = .valid g :=
  g.read_record Condition.read_snapshot

end ConditionGroup

/-! ### Instructions -/

lemma choice_action (a : Action) :
    choice (wordsOf Action.word Action.list) (.string a.word) = .valid a := by
  cases a <;> rfl

namespace Instruction

variable (i : Instruction) {guard : ConditionGroup → Value}

lemma readFields_fields (hnull : ∀ g, (guard g).isNull = false)
    (hread : ∀ g, ConditionGroup.read (guard g) = .valid g) :
    readFields (entriesOf (i.fields guard)) = .valid i := by
  have htext := nullable_text_string?
  have hcondition : nullable ConditionGroup.read ((i.condition.map guard).getD .null) =
      .valid i.condition := nullable_getD i.condition (fun g _ => hnull g) fun g _ => hread g
  simp [readFields, fields, required, Schema.optional, FieldName.given?, FieldName.single,
    text, choice_action, htext, hcondition]

lemma readFields_present : readFields (entriesOf (Value.present (i.fields guard))) =
    readFields (entriesOf (i.fields guard)) := by
  have hnames : ((i.fields guard).map Prod.fst).Nodup := by
    simp [fields]
  rw [readFields, readFields]
  simp (disch := simp [fields, FieldName.given?, FieldName.single, Value.isNull]) only
    [required_present hnames, optional_present hnames]

lemma read_toValue : read i.toValue = .valid i :=
  i.readFields_fields (fun _ => rfl) ConditionGroup.read_toValue

lemma read_snapshot : read i.snapshot = .valid i := by
  rw [read, snapshot, Value.prunedRecord, record_entriesOf, readFields_present]
  exact i.readFields_fields (fun _ => rfl) ConditionGroup.read_snapshot

end Instruction

lemma ModuleInstructions.read_toValue (m : ModuleInstructions) : read m.toValue = .valid m := by
  have hlist : Schema.list .notTuple Instruction.read
      (.list (m.instructions.map Instruction.toValue)) = .valid m.instructions :=
    Checked.items_map fun i _ => i.read_toValue
  rw [read, toValue, record_entriesOf]
  simp [readFields, Schema.optional, FieldName.given?, FieldName.single, hlist]

/-! ### Modules and templates -/

namespace Module

lemma read_toValue {m : Module} (h : m.name ≠ "") : read m.toValue = .valid m := by
  have htexts (texts : List String) :
      nullableList .notTuple Schema.text (textsValue texts) = .valid texts :=
    Checked.items_map fun _ _ => rfl
  rw [read, toValue, record_entriesOf]
  simp [readFields, required, Schema.optional, FieldName.given?, FieldName.single, nonEmptyText,
    Checked.andThen, text, integer, htexts, h]

lemma name_ne_of_nonEmptyText (v : Value) (s : String) (h : nonEmptyText v = .valid s) :
    s ≠ "" := by
  obtain ⟨t, -, ht⟩ := Checked.andThen_eq_valid_iff.mp h
  by_cases hempty : t = ""
  · rw [if_pos hempty] at ht
    cases ht
  · rw [if_neg hempty] at ht
    exact Checked.valid.inj ht ▸ hempty

/-- A module that has been read has a name. -/
lemma name_ne_of_read (v : Value) (m : Module) (h : read v = .valid m) : m.name ≠ "" := by
  obtain ⟨entries, -, h⟩ := record_eq_valid_iff.mp h
  simp only [readFields, Checked.seq_eq_valid_iff, Checked.map_eq_valid_iff] at h
  obtain ⟨_, _, ⟨_, _, ⟨_, _, ⟨_, _, ⟨_, _, ⟨name, hname, rfl⟩, -, rfl⟩, -, rfl⟩, -, rfl⟩, -,
    rfl⟩, -, rfl⟩ := h
  exact of_required (P := (· ≠ "")) name_ne_of_nonEmptyText hname

end Module

namespace Template

/-- What reading ensures of a template: its modules have names, all of them different. -/
def IsNamed (t : Template) : Prop := (∀ m ∈ t.modules, m.name ≠ "") ∧ t.checkNames = .valid t

lemma read_toValue {t : Template} (h : t.IsNamed) : read t.toValue = .valid t := by
  obtain ⟨hmodules, hnames⟩ := h
  have hlist : nullableList .notTuple Module.read (.list (t.modules.map Module.toValue)) =
      .valid t.modules := Checked.items_map fun m hm => Module.read_toValue (hmodules m hm)
  rw [read, toValue, record_entriesOf]
  simpa [readFields, required, Schema.optional, FieldName.given?, FieldName.single, text, hlist,
    Checked.andThen] using hnames

lemma isNamed_of_read (v : Value) (t : Template) (h : read v = .valid t) : t.IsNamed := by
  obtain ⟨entries, -, h⟩ := record_eq_valid_iff.mp h
  obtain ⟨u, hfields, hnames⟩ := Checked.andThen_eq_valid_iff.mp h
  have hsame : u = t := by
    rw [checkNames] at hnames
    split at hnames
    · cases hnames
    · exact Checked.valid.inj hnames
  rw [hsame] at hfields hnames
  refine ⟨?_, hnames⟩
  simp only [Checked.seq_eq_valid_iff, Checked.map_eq_valid_iff] at hfields
  obtain ⟨_, modules, ⟨_, _, ⟨_, _, ⟨_, -, rfl⟩, -, rfl⟩, -, rfl⟩, hmodules, rfl⟩ := hfields
  refine of_optional (P := fun ms : List Module => ∀ m ∈ ms, m.name ≠ "") (by simp) ?_ hmodules
  intro v ms hlist
  exact of_nullableList Module.name_ne_of_read hlist

end Template

/-! ### Settings -/

lemma Path.isRead_of_read (v : Value) (p : Path) (h : Path.read v = .valid p) : p.IsRead := by
  cases v with
  | scalar s =>
    cases s with
    | string s =>
      obtain rfl := Checked.valid.inj h
      exact Path.isRead_ofString s
    | _ => cases h
  | list items => cases h
  | map entries => cases h
  | set items => cases h

lemma Path.read_toValue {p : Path} (h : p.IsRead) : Path.read p.toValue = .valid p := by
  rw [Path.toValue, Path.read, Path.ofString_text h]

lemma le_of_integerFrom {least : Int} (v : Value) (n : Int) (h : integerFrom least v = .valid n) :
    least ≤ n := by
  obtain ⟨m, -, hm⟩ := Checked.andThen_eq_valid_iff.mp h
  by_cases hless : m < least
  · rw [if_pos hless] at hm
    cases hm
  · rw [if_neg hless] at hm
    exact Checked.valid.inj hm ▸ Int.not_lt.mp hless

lemma integerFrom_int {least n : Int} (h : least ≤ n) :
    integerFrom least (.int n) = .valid n := by
  rw [integerFrom, integer, Checked.andThen, if_neg (Int.not_lt.mpr h)]

namespace Settings

/-- What reading ensures of settings. -/
structure IsInRange (s : Settings) : Prop where
  logDirectory : s.logDirectory.IsRead
  retentionDays : 1 ≤ s.retentionDays
  listLimit : 1 ≤ s.listLimit

lemma read_toValue (home : Path) {s : Settings} (h : s.IsInRange) :
    read home s.toValue = .valid s := by
  have hdirectory := Path.read_toValue h.logDirectory
  have hdays := integerFrom_int h.retentionDays
  have hlimit := integerFrom_int h.listLimit
  rw [read, toValue, record_entriesOf]
  simp [readFields, Schema.optional, FieldName.given?, FieldName.single, text, boolean, hdirectory,
    hdays, hlimit]

lemma isRead_defaultLogDirectory {home : Path} (h : home.IsRead) :
    (defaultLogDirectory home).IsRead := by
  intro name hname
  rcases List.mem_append.mp hname with hhome | hlast
  · exact h name hhome
  · rw [List.mem_singleton.mp hlast]
    decide

lemma isInRange_of_read {home : Path} (hhome : home.IsRead) (v : Value) (s : Settings)
    (h : read home v = .valid s) : s.IsInRange := by
  obtain ⟨entries, -, h⟩ := record_eq_valid_iff.mp h
  simp only [readFields, Checked.seq_eq_valid_iff, Checked.map_eq_valid_iff] at h
  obtain ⟨_, _, ⟨_, _, ⟨_, _, ⟨_, _, ⟨_, _, ⟨directory, hdirectory, rfl⟩, hdays, rfl⟩, -, rfl⟩,
    -, rfl⟩, -, rfl⟩, hlimit, rfl⟩ := h
  have hpositive : (1 : Int) ≤ 20 ∧ (1 : Int) ≤ 30 := by decide
  exact {
    logDirectory := of_optional (isRead_defaultLogDirectory hhome) Path.isRead_of_read hdirectory
    retentionDays := of_optional hpositive.2 le_of_integerFrom hdays
    listLimit := of_optional hpositive.1 le_of_integerFrom hlimit }

end Settings

/-! ### Contexts -/

namespace Context

/-- Two contexts are the same if they agree in everything and select the same modules. -/
structure IsSame (c c' : Context) : Prop where
  selected : ∀ name, name ∈ c.selected ↔ name ∈ c'.selected
  root : c.root = c'.root
  project : c.project = c'.project
  module : c.module = c'.module
  verbose : c.verbose = c'.verbose

lemma mem_sortedNames {names : List String} {name : String} :
    name ∈ sortedNames names ↔ name ∈ names := by
  rw [sortedNames, List.mem_mergeSort, List.mem_eraseDups]

lemma read_toValue {c : Context} (h : c.root.IsRead) :
    read c.toValue = .valid { c with selected := sortedNames c.selected } := by
  have hroot := Path.read_toValue h
  have hnames : Schema.list .notSet Schema.text
      (.list ((sortedNames c.selected).map Value.string)) = .valid (sortedNames c.selected) :=
    Checked.items_map fun _ _ => rfl
  rw [read, toValue, record_entriesOf]
  simp [readFields, required, Schema.optional, FieldName.given?, FieldName.single, text, boolean,
    hroot, hnames]

lemma isRead_root_of_read (v : Value) (c : Context) (h : read v = .valid c) : c.root.IsRead := by
  obtain ⟨entries, -, h⟩ := record_eq_valid_iff.mp h
  simp only [readFields, Checked.seq_eq_valid_iff, Checked.map_eq_valid_iff] at h
  obtain ⟨_, _, ⟨_, _, ⟨_, _, ⟨_, _, ⟨_, -, rfl⟩, hroot, rfl⟩, -, rfl⟩, -, rfl⟩, -, rfl⟩ := h
  exact of_required Path.isRead_of_read hroot

end Context

/-! ### Records -/

namespace Log.Record

/-- What reading ensures of the instruction of a record: it is a map with texts as keys. -/
lemma exists_instruction_eq_of_read {v : Value} {r : Record} (h : Record.read v = .valid r) :
    ∃ entries, r.instruction = .map entries ∧ HasTextKeys entries := by
  obtain ⟨entries, -, h⟩ := record_eq_valid_iff.mp h
  simp only [readFields, Checked.seq_eq_valid_iff, Checked.map_eq_valid_iff] at h
  obtain ⟨_, _, ⟨_, _, ⟨_, _, ⟨_, _, ⟨_, _, ⟨_, _, ⟨_, _, ⟨_, _, ⟨_, -, rfl⟩, -, rfl⟩, -, rfl⟩, -,
    rfl⟩, -, rfl⟩, hinstruction, rfl⟩, -, rfl⟩, -, rfl⟩, -, rfl⟩ := h
  exact of_optional (P := fun u => ∃ entries, u = .map entries ∧ HasTextKeys entries)
    ⟨[], rfl, .nil⟩ (fun _ _ => exists_of_readMap) hinstruction

lemma document_eq (r : Record) :
    r.document = if r.instruction.depth ≤ maxDepth then .ok r.toValue else .error .tooDeep := by
  rw [document, isShallow]
  by_cases h : r.instruction.depth ≤ maxDepth <;> simp [h]

end Log.Record

/-! ### Dumps -/

/-- Whether all that is read from documents is read again from its own. -/
def ReadsBack {α : Type} (read : Reader α) (dump : α → Value) : Prop :=
  ∀ v a, read v = .valid a → read (dump a) = .valid a

/-- That every kind of part is read again from the document it is written as. The names that a
context selects are written in order and without repetitions. The one document that is not there to
be read is that of a record whose instruction is nested too deep. -/
structure DumpsReadBack (home : Path) : Prop where
  condition : ReadsBack Condition.read Condition.toValue
  conditionGroup : ReadsBack ConditionGroup.read ConditionGroup.toValue
  instruction : ReadsBack Instruction.read Instruction.toValue
  snapshot : ReadsBack Instruction.read Instruction.snapshot
  moduleInstructions : ReadsBack ModuleInstructions.read ModuleInstructions.toValue
  module : ReadsBack Module.read Module.toValue
  template : ReadsBack Template.read Template.toValue
  settings : ReadsBack (Settings.read home) Settings.toValue
  context : ∀ v c, Context.read v = .valid c →
    ∃ c', Context.read c.toValue = .valid c' ∧ c.IsSame c'
  record : ∀ v r, Log.Record.read v = .valid r →
    if r.instruction.depth ≤ Log.Record.maxDepth then
      ∃ w, r.document = .ok w ∧ Log.Record.read w = .valid r
    else r.document = .error .tooDeep

theorem dumpsReadBack {home : Path} (hhome : home.IsRead) : DumpsReadBack home where
  condition _ c _ := c.read_toValue
  conditionGroup _ g _ := g.read_toValue
  instruction _ i _ := i.read_toValue
  snapshot _ i _ := i.read_snapshot
  moduleInstructions _ m _ := m.read_toValue
  module v m h := Module.read_toValue (Module.name_ne_of_read v m h)
  template v t h := Template.read_toValue (Template.isNamed_of_read v t h)
  settings v s h := Settings.read_toValue home (Settings.isInRange_of_read hhome v s h)
  context v c h := by
    refine ⟨_, Context.read_toValue (Context.isRead_root_of_read v c h), ?_⟩
    exact {
      selected := fun name => Context.mem_sortedNames.symm
      root := rfl
      project := rfl
      module := rfl
      verbose := rfl }
  record v r h := by
    obtain ⟨entries, hinstruction, hkeys⟩ := Log.Record.exists_instruction_eq_of_read h
    rw [Log.Record.document_eq]
    by_cases hdepth : r.instruction.depth ≤ Log.Record.maxDepth
    · rw [if_pos hdepth, if_pos hdepth]
      exact ⟨r.toValue, rfl, Log.Record.read_toValue hinstruction hkeys⟩
    · rw [if_neg hdepth, if_neg hdepth]

/-- An instruction whose guard is a bare list and whose count is written as a text, with the second
spelling of one field, is read again from what the log keeps of it; and so are settings whose log is
at a path that starts with two slashes and is written in a roundabout way. -/
theorem dumpsReadBack_of_shorthand :
    Path.IsRead ["home"] ∧
    (∃ s, Settings.read ["home"] (Value.record [("log_dir", .string "//srv/./a//..")]) = .valid s ∧
      s.logDirectory = ⟨.slashes, ["srv", "a", ".."]⟩ ∧
      Settings.read ["home"] s.toValue = .valid s) ∧
    ∃ i, Instruction.read (Value.record
        [("path", .string "a.txt"), ("action", .string "INSERT_PROP"), ("prop_name", .string "p"),
          ("componentName", .null), ("condition", .list [Value.record
            [("kind", .string "PATTERN_COUNT"), ("count", .string " 2.0 ")]])]) = .valid i ∧
      i.propName = some "p" ∧
      i.condition = some ⟨[⟨.patternCount, none, none, some 2, none⟩], .all⟩ ∧
      Instruction.read i.snapshot = .valid i := by
  have hhome : Path.IsRead ["home"] := by decide
  have hsettings : Settings.read ["home"] (Value.record [("log_dir", .string "//srv/./a//..")]) =
      .valid { Settings.default ["home"] with
        logDirectory := ⟨.slashes, ["srv", "a", ".."]⟩ } := rfl
  have hread : Instruction.read (Value.record
      [("path", .string "a.txt"), ("action", .string "INSERT_PROP"), ("prop_name", .string "p"),
        ("componentName", .null), ("condition", .list [Value.record
          [("kind", .string "PATTERN_COUNT"), ("count", .string " 2.0 ")]])]) =
      .valid ⟨"a.txt", .insertProp, none, none, none, none, some "p", none,
        some ⟨[⟨.patternCount, none, none, some 2, none⟩], .all⟩⟩ := rfl
  exact ⟨hhome, ⟨_, hsettings, rfl, (dumpsReadBack hhome).settings _ _ hsettings⟩, _, hread, rfl,
    rfl, (dumpsReadBack hhome).snapshot _ _ hread⟩

/-- Lists inside one another, with nothing in the innermost. -/
def nestedLists : Nat → Value
  | 0 => .list []
  | n + 1 => .list [nestedLists n]

lemma depth_nestedLists (n : Nat) : (nestedLists n).depth = n + 1 := by
  induction n with
  | zero => rfl
  | succ n ih => rw [nestedLists, Value.depth, Value.depthOfItems, ih]; rfl

/-- A record can be read whose document cannot be written. -/
theorem not_readsBack_record : ¬ ∀ v r, Log.Record.read v = .valid r →
    ∃ w, r.document = .ok w ∧ Log.Record.read w = .valid r := by
  intro h
  have hread : Log.Record.read (Value.record
      [("hash", .string "0"), ("timestamp", .int 0), ("projectName", .string "shop"),
        ("moduleName", .string "m"), ("instructionIndex", .int 0), ("status", .string "success"),
        ("instruction", Value.record [("x", nestedLists 300)])]) =
      .valid
        { hash := "0", timestamp := 0, project := "shop", module := "m", index := 0
          instruction := Value.record [("x", nestedLists 300)]
          status := .success, error := none, conditions := none } := rfl
  obtain ⟨w, hw, -⟩ := h _ _ hread
  rw [Log.Record.document_eq, if_neg] at hw
  · cases hw
  · simp [Value.record, Value.depth, Value.depthOfEntries, depth_nestedLists, Log.Record.maxDepth]

end Scaffold
