import Scaffold.Log.Store
import Scaffold.Proofs.JsonRoundTrip
import Scaffold.Proofs.SnapshotDepth

/-!
# Records there and back

The record of an attempt, as it is kept in a file, is read as the same record. The one thing that
can stand in the way is an integer of too many digits: it is written like any other and not read.
-/

namespace Scaffold

open Document Schema

namespace Document.Value

/-! ### Plain documents -/

lemma arePlainItems_of_forall {items : List Value} (h : ∀ v ∈ items, v.IsPlain) :
    ArePlainItems items := by
  induction items with
  | nil => trivial
  | cons v rest ih =>
    obtain ⟨hv, hrest⟩ := List.forall_mem_cons.mp h
    exact ⟨hv, ih hrest⟩

lemma isPlain_record {fields : List (String × Value)} (hnames : (fields.map Prod.fst).Nodup)
    (h : ∀ field ∈ fields, field.2.IsPlain) : (record fields).IsPlain := by
  rw [record, IsPlain]
  induction fields with
  | nil => trivial
  | cons field rest ih =>
    rw [List.map_cons, List.nodup_cons] at hnames
    obtain ⟨hfield, hrest⟩ := List.forall_mem_cons.mp h
    refine ⟨⟨field.1, rfl, ?_⟩, hfield, ih hnames.2 hrest⟩
    intro pair hpair heq
    obtain ⟨other, hother, rfl⟩ := List.mem_map.mp hpair
    exact hnames.1 (List.mem_map.mpr ⟨other, hother, Scalar.string.inj heq⟩)

lemma isPlain_prunedRecord {fields : List (String × Value)}
    (hnames : (fields.map Prod.fst).Nodup) (h : ∀ field ∈ fields, field.2.IsPlain) :
    (prunedRecord fields).IsPlain :=
  isPlain_record (hnames.sublist (List.filter_sublist.map _)) fun field hfield =>
    h field (List.mem_of_mem_filter hfield)

@[simp] lemma isPlain_string? (s : Option String) : (string? s).IsPlain := by
  cases s <;> trivial

/-! ### Short integers -/

lemma haveShortItems_eq (items : List Value) :
    haveShortItems items = items.all hasShortIntegers := by
  induction items with
  | nil => rfl
  | cons v rest ih => rw [haveShortItems, ih, List.all_cons]

lemma hasShortIntegers_record (fields : List (String × Value)) :
    (record fields).hasShortIntegers = fields.all fun field => field.2.hasShortIntegers := by
  rw [record, hasShortIntegers]
  induction fields with
  | nil => rfl
  | cons field rest ih => rw [List.map_cons, haveShortEntries, ih, List.all_cons]

lemma hasShortIntegers_prunedRecord (fields : List (String × Value)) :
    (prunedRecord fields).hasShortIntegers =
      fields.all fun field => field.2.hasShortIntegers := by
  rw [prunedRecord, hasShortIntegers_record, present, List.all_filter]
  congr 1
  funext field
  obtain ⟨name, v⟩ := field
  cases v with
  | scalar s => cases s <;> simp [isNull, hasShortIntegers]
  | list items => simp [isNull]
  | map entries => simp [isNull]
  | set items => simp [isNull]

@[simp] lemma hasShortIntegers_string? (s : Option String) :
    (string? s).hasShortIntegers = true := by
  cases s <;> rfl

end Document.Value

/-! ### Snapshots -/

lemma Condition.isPlain_snapshot (c : Condition) : c.snapshot.IsPlain := by
  refine Value.isPlain_prunedRecord (by simp [Condition.fields]) fun field hfield => ?_
  simp only [Condition.fields, List.mem_cons, List.not_mem_nil, or_false] at hfield
  rcases hfield with rfl | rfl | rfl | rfl | rfl
  · trivial
  · simp
  · simp
  · cases c.count <;> trivial
  · simp

lemma ConditionGroup.isPlain_snapshot (g : ConditionGroup) : g.snapshot.IsPlain := by
  refine Value.isPlain_record (by simp) fun field hfield => ?_
  simp only [List.mem_cons, List.not_mem_nil, or_false] at hfield
  rcases hfield with rfl | rfl
  · refine Value.arePlainItems_of_forall fun v hv => ?_
    obtain ⟨c, -, rfl⟩ := List.mem_map.mp hv
    exact c.isPlain_snapshot
  · trivial

lemma Instruction.isPlain_snapshot (i : Instruction) : i.snapshot.IsPlain := by
  refine Value.isPlain_prunedRecord (by simp [Instruction.fields]) fun field hfield => ?_
  simp only [Instruction.fields, List.mem_cons, List.not_mem_nil, or_false] at hfield
  rcases hfield with rfl | rfl | rfl | rfl | rfl | rfl | rfl | rfl | rfl
  · trivial
  · trivial
  · simp
  · simp
  · simp
  · simp
  · simp
  · simp
  · cases i.condition with
    | none => trivial
    | some g => exact g.isPlain_snapshot

lemma Condition.hasShortIntegers_snapshot (c : Condition) :
    c.snapshot.hasShortIntegers = c.count.all Json.isShort := by
  rw [Condition.snapshot, Value.hasShortIntegers_prunedRecord]
  cases hcount : c.count <;> simp [Condition.fields, Value.hasShortIntegers, hcount]

/-- The integers of a snapshot are the counts in the guard of the instruction. -/
lemma Instruction.hasShortIntegers_snapshot (i : Instruction) :
    i.snapshot.hasShortIntegers =
      i.condition.all fun g => g.conditions.all fun c => c.count.all Json.isShort := by
  rw [Instruction.snapshot, Value.hasShortIntegers_prunedRecord]
  cases hcondition : i.condition with
  | none => simp [Instruction.fields, Value.hasShortIntegers, hcondition]
  | some g =>
    have hg : g.snapshot.hasShortIntegers =
        g.conditions.all fun c => c.count.all Json.isShort := by
      rw [ConditionGroup.snapshot, Value.hasShortIntegers_record]
      simp [Value.hasShortIntegers, Value.haveShortItems_eq, List.all_map, Function.comp_def,
        Condition.hasShortIntegers_snapshot]
    simp [Instruction.fields, Value.hasShortIntegers, hcondition, hg]

/-! ### Records -/

/-- What comes of reading the text of a stored document. -/
lemma Schema.Reader.fromText_stored {α : Type} {part : Reader α} {v : Value} (h : v.IsPlain)
    (hdepth : v.depth ≤ Schema.maxDepth + 1) :
    part.fromText (Text.unifyLineEnds (Json.stored v)) =
      if v.hasShortIntegers then part v else .fail .unreadable := by
  have hread := Json.readWithin_stored h hdepth
  rw [Json.unifyLineEnds_stored h, fromText]
  cases hshort : v.hasShortIntegers with
  | true => rw [hread.read hshort, if_pos rfl]
  | false =>
    obtain ⟨digits, hrefused⟩ := hread.refused hshort
    rw [hrefused, if_neg Bool.false_ne_true]

lemma Verdict.read_toValue (v : Verdict) : Verdict.read v.toValue = .valid v := by
  rw [Verdict.read, Verdict.toValue, record_entriesOf]
  simp [required, FieldName.given?, FieldName.single, boolean, text]

namespace Log.Record

/-- Whether a record can be read again after it has been stored: all its integers have few enough
digits. -/
def isLegible (r : Record) : Bool :=
  Json.isShort r.timestamp && Json.isShort r.index && r.instruction.hasShortIntegers

variable {r : Record}

lemma isPlain_stored (h : r.instruction.IsPlain) : r.stored.IsPlain := by
  refine Value.isPlain_prunedRecord (by simp [fields]) fun field hfield => ?_
  simp only [fields, List.mem_cons, List.not_mem_nil, or_false] at hfield
  rcases hfield with rfl | rfl | rfl | rfl | rfl | rfl | rfl | rfl | rfl
  · trivial
  · trivial
  · trivial
  · trivial
  · trivial
  · exact h
  · trivial
  · simp
  · cases r.conditions with
    | none => trivial
    | some vs =>
      refine Value.arePlainItems_of_forall fun v hv => ?_
      obtain ⟨verdict, -, rfl⟩ := List.mem_map.mp hv
      refine Value.isPlain_record (by simp) fun field hfield => ?_
      simp only [List.mem_cons, List.not_mem_nil, or_false] at hfield
      rcases hfield with rfl | rfl <;> trivial

lemma depth_stored_le {n : Nat} (hn : 3 ≤ n) (h : r.instruction.depth ≤ n) :
    r.stored.depth ≤ n + 1 := by
  refine Value.depth_prunedRecord_le fun field hfield => ?_
  simp only [fields, List.mem_cons, List.not_mem_nil, or_false] at hfield
  rcases hfield with rfl | rfl | rfl | rfl | rfl | rfl | rfl | rfl | rfl
  · simp only [Value.depth]; omega
  · simp only [Value.depth]; omega
  · simp only [Value.depth]; omega
  · simp only [Value.depth]; omega
  · simp only [Value.depth]; omega
  · exact h
  · simp only [Value.depth]; omega
  · simp only [Value.depth_string?]; omega
  · cases r.conditions with
    | none => simp [Value.depth]; omega
    | some vs =>
      refine (Value.depth_list_le (n := 2) fun v hv => ?_).trans hn
      obtain ⟨verdict, -, rfl⟩ := List.mem_map.mp hv
      refine Value.depth_record_le (n := 1) fun field hfield => ?_
      simp only [List.mem_cons, List.not_mem_nil, or_false] at hfield
      rcases hfield with rfl | rfl <;> simp [Value.depth]

lemma hasShortIntegers_stored (r : Record) : r.stored.hasShortIntegers = r.isLegible := by
  have hverdicts : ∀ vs : List Verdict, Value.haveShortItems (vs.map Verdict.toValue) = true := by
    intro vs
    simp [Value.hasShortIntegers, Value.haveShortItems_eq, Verdict.toValue,
      Value.hasShortIntegers_record]
  rw [stored, Value.hasShortIntegers_prunedRecord, isLegible]
  cases hc : r.conditions <;>
    simp [fields, Value.hasShortIntegers, hc, hverdicts, Bool.and_assoc]

lemma readIndex_int (n : Nat) : readIndex (.int n) = .valid n := by
  have hn : ¬ (n : Int) < 0 := by omega
  simp [readIndex, integerFrom, integer, Checked.andThen, hn]

lemma choice_status (status : Status) :
    choice Status.words (.string status.word) = .valid status := by
  cases status <;> rfl

/-! ### The instruction of a record -/

lemma readKey_eq_valid_iff {key read : Scalar} :
    readKey key = .valid read ↔ ∃ name, text (.scalar key) = .valid name ∧ .string name = read := by
  simp only [readKey, Checked.map_eq_valid_iff, Checked.within_eq_valid_iff]

lemma readKeys_of_areTexts {entries : Entries}
    (h : ∀ key ∈ Table.keys entries, ∃ name, key = .string name) :
    readKeys entries = .valid entries := by
  induction entries with
  | nil => rfl
  | cons entry rest ih =>
    obtain ⟨key, v⟩ := entry
    obtain ⟨⟨name, rfl⟩, hrest⟩ := List.forall_mem_cons.mp h
    have hread : readKey (.string name) = .valid (.string name) :=
      readKey_eq_valid_iff.mpr ⟨name, rfl, rfl⟩
    rw [readKeys, hread, ih hrest]
    rfl

lemma areTexts_of_readKeys {entries pairs : Entries} (h : readKeys entries = .valid pairs) :
    ∀ pair ∈ pairs, ∃ name, pair.1 = .string name := by
  induction entries generalizing pairs with
  | nil =>
    obtain rfl := Checked.valid.inj h
    simp
  | cons entry rest ih =>
    simp only [readKeys, Checked.seq_eq_valid_iff, Checked.map_eq_valid_iff] at h
    obtain ⟨_, more, ⟨key, hkey, rfl⟩, hmore, rfl⟩ := h
    obtain ⟨name, -, rfl⟩ := readKey_eq_valid_iff.mp hkey
    exact List.forall_mem_cons.mpr ⟨⟨name, rfl⟩, ih hmore⟩

/-- A map with texts as keys is read as itself. -/
lemma readMap_of_hasTextKeys {entries : Entries} (h : HasTextKeys entries) :
    readMap (.map entries) = .valid (.map entries) := by
  rw [readMap, readKeys_of_areTexts h.areTexts, Checked.map_valid, h.distinct.ofPairs_eq_self]

/-- What is read as a map of any values has texts as keys. -/
lemma exists_of_readMap {v u : Value} (h : readMap v = .valid u) :
    ∃ entries, u = .map entries ∧ HasTextKeys entries := by
  cases v with
  | map entries =>
    obtain ⟨pairs, hpairs, rfl⟩ := Checked.map_eq_valid_iff.mp h
    exact ⟨Table.ofPairs pairs, rfl, .ofPairs (areTexts_of_readKeys hpairs)⟩
  | scalar s => cases h
  | list items => cases h
  | set items => cases h

/-! ### Documents of records -/

/-- A record as a document is read as the record. -/
lemma read_toValue {entries : Entries} (h : r.instruction = .map entries)
    (hkeys : HasTextKeys entries) : Record.read r.toValue = .valid r := by
  have herror := nullable_text_string? r.error
  have hconditions : nullable (Schema.list .notList Verdict.read)
      ((r.conditions.map fun vs => Value.list (vs.map Verdict.toValue)).getD .null) =
        .valid r.conditions :=
    nullable_getD r.conditions (fun _ _ => rfl) fun vs _ =>
      Checked.items_map fun v _ => v.read_toValue
  have hinstruction : readMap r.instruction = .valid r.instruction := by
    rw [h, readMap_of_hasTextKeys hkeys]
  rw [Record.read, toValue, record_entriesOf]
  simp [readFields, fields, required, Schema.optional, FieldName.given?, FieldName.single, text,
    integer, readIndex_int, choice_status, herror, hconditions, hinstruction]

/-- A record is read alike from its document and from its stored form. -/
lemma read_stored_eq {entries : Entries} (h : r.instruction = .map entries) :
    Record.read r.stored = Record.read r.toValue := by
  have hnames : (r.fields.map Prod.fst).Nodup := by
    simp [fields]
  rw [Record.read, stored, toValue, Value.prunedRecord, record_entriesOf, record_entriesOf,
    readFields, readFields]
  simp (disch := simp [fields, FieldName.given?, FieldName.single, Value.isNull, h]) only
    [required_present hnames, optional_present hnames, optional_present_of_not_isNull hnames]

/-- A stored record is read as the record. -/
lemma read_stored {entries : Entries} (h : r.instruction = .map entries)
    (hkeys : HasTextKeys entries) : Record.read r.stored = .valid r := by
  rw [read_stored_eq h, read_toValue h hkeys]

/-- The record of an attempt at an instruction, as it is put together at the given time. -/
def IsMade (r : Record) : Prop :=
  ∃ project module index i status error conditions timestamp,
    create project module index (Instruction.snapshot i) status error conditions timestamp =
      .valid r

/-- What a record that has been put together consists of. -/
lemma IsMade.exists_eq (h : r.IsMade) : ∃ i : Instruction, r.instruction = i.snapshot ∧
    r.hash = hashOf r.project r.module r.index r.timestamp := by
  obtain ⟨project, module, index, i, status, error, conditions, timestamp, hr⟩ := h
  rw [create] at hr
  split at hr
  · cases hr
  · next hindex =>
    obtain rfl := Checked.valid.inj hr
    refine ⟨i, rfl, ?_⟩
    rw [show ((index.toNat : Nat) : Int) = index by omega]

/-- The text of the file of an instruction's record is read as the record if the record is legible,
and as no record otherwise. -/
lemma readRecord_fileText {i : Instruction} (hi : r.instruction = i.snapshot) :
    readRecord (Text.unifyLineEnds (Store.fileText r)) =
      if r.isLegible then .valid r else .fail .unreadable := by
  have hplain : r.stored.IsPlain := isPlain_stored (hi ▸ i.isPlain_snapshot)
  have hdepth : r.stored.depth ≤ 6 := depth_stored_le (by decide) (hi ▸ i.depth_snapshot_le)
  have hbound : r.stored.depth ≤ Schema.maxDepth + 1 := hdepth.trans (by decide)
  have hnames : ((i.fields ConditionGroup.snapshot).map Prod.fst).Nodup := by
    simp [Instruction.fields]
  rw [Store.fileText, readRecord, Reader.fromText_stored hplain hbound, hasShortIntegers_stored,
    read_stored hi (hasTextKeys_entriesOf (hnames.sublist (List.filter_sublist.map _)))]

theorem IsMade.readRecord_fileText (h : r.IsMade) :
    readRecord (Text.unifyLineEnds (Store.fileText r)) =
      if r.isLegible then .valid r else .fail .unreadable := by
  obtain ⟨i, hi, -⟩ := h.exists_eq
  exact Record.readRecord_fileText hi

end Log.Record

end Scaffold
