import Scaffold.Proofs.DumpReading
import Scaffold.Proofs.LogBook
import Scaffold.Settings.Stored

/-!
# Stored forms there and back

What has been saved is loaded as the same: a record of the log under its hash, and settings from the
file that keeps them. A file can be saved at a path if its directory is there or can be made and the
path then leads to a place where no directory is. This is all that the disk has a say in.
-/

namespace Scaffold

open Document Schema

/-! ### Text files -/

namespace Disk

variable {d : Disk} {p : Path} {t : List Char}

/-- The disk with the directory of a path, as far as it can be made. -/
def withParent (d : Disk) (p : Path) : Disk := (d.makeDirectories p.parent).2

/-- The disk with a text saved at a path. -/
def saved (d : Disk) (p : Path) (t : List Char) : Disk :=
  (d.withParent p).put p.location (.file (Text.Utf8.encode t))

/-- Whether a file can be saved at a path. -/
structure CanSave (d : Disk) (p : Path) : Prop where
  made : (d.makeDirectories p.parent).1 = .ok ()
  located : (d.withParent p).locate p = .ok p.location
  free : entry? (d.withParent p) p.location ≠ some .directory

lemma canSave_of_writeText {d₁ d₂ : Disk} (hmake : d.makeDirectories p.parent = (.ok (), d₁))
    (hwrite : d₁.writeText p t = .ok d₂) : d.CanSave p := by
  obtain rfl : d.withParent p = d₁ := congrArg Prod.snd hmake
  have hlocate : (d.withParent p).locate p = .ok p.location := by
    rw [writeText, writeFile] at hwrite
    split at hwrite
    · cases hwrite
    · next l hl => rw [hl, eq_location_of_locate hl]
  exact ⟨congrArg Prod.fst hmake, hlocate, (writeText_eq_ok hwrite).1⟩

namespace CanSave

variable (h : d.CanSave p)

include h

lemma makeDirectories_eq : d.makeDirectories p.parent = (.ok (), d.withParent p) :=
  Prod.ext h.made rfl

lemma writeText_eq (t : List Char) : (d.withParent p).writeText p t = .ok (d.saved p t) := by
  have hfree := h.free
  rw [writeText, writeFile, h.located]
  -- the case of a directory is excluded by `hfree`
  simp only [saved]

lemma lookup_saved (t : List Char) :
    (d.saved p t).lookup p = .ok (.file (Text.Utf8.encode t)) := by
  have hne := ne_nil_of_entry?_ne h.free
  have hdirectories : ∀ l, entry? (d.withParent p) l = some .directory →
      entry? (d.saved p t) l = some .directory := by
    intro l hl
    rw [saved, entry?_put hne, if_neg, hl]
    rintro rfl
    exact h.free hl
  rw [lookup, locate_mono hdirectories h.located]
  simp only [saved, entry?_put hne, if_pos]

lemma isFile_saved (t : List Char) : (d.saved p t).isFile p = .ok true := by
  rw [isFile, find?, h.lookup_saved]
  rfl

/-- A text that has been saved is read again, with line feeds for all line ends. -/
lemma readText_saved (t : List Char) :
    (d.saved p t).readText p = .ok (Text.unifyLineEnds t) := by
  rw [readText, readFile, h.lookup_saved]
  simp only [Text.Utf8.decode_encode]

end CanSave

end Disk

/-! ### Records -/

namespace Log

/-- A text that files of the log are named by: one to 64 hexadecimal digits in lower case. -/
structure IsHashText (hash : String) : Prop where
  notEmpty : hash.toList ≠ []
  length_le : hash.toList.length ≤ 64
  hexDigit : ∀ c ∈ hash.toList, IsHexDigit c

namespace Store

variable {s : Store} {r : Record} {d : Disk}

lemma parent_pathOf (h : ∀ c ∈ r.hash.toList, IsHexDigit c) :
    (s.pathOf r.hash).parent = s.directory := by
  rw [pathOf_eq s h, Path.parent_child]

lemma save_of_canSave (hhash : ∀ c ∈ r.hash.toList, IsHexDigit c) (hshallow : r.isShallow = true)
    (h : d.CanSave (s.pathOf r.hash)) :
    s.save r d = (.ok (s.pathOf r.hash), d.saved (s.pathOf r.hash) (fileText r)) := by
  have hmake := h.makeDirectories_eq
  rw [parent_pathOf hhash] at hmake
  rw [save, hmake]
  simp [hshallow, h.writeText_eq]

lemma canSave_of_save (hhash : ∀ c ∈ r.hash.toList, IsHexDigit c) {p : Path}
    (h : (s.save r d).1 = .ok p) : d.CanSave (s.pathOf r.hash) := by
  unfold save at h
  dsimp only at h
  split at h
  · cases h
  · next d₁ hmake =>
    split at h
    · cases h
    · split at h
      · cases h
      · next d₂ hwrite =>
        rw [← parent_pathOf hhash] at hmake
        exact Disk.canSave_of_writeText hmake hwrite

lemma readFile_saved {i : Instruction} (hi : r.instruction = i.snapshot)
    (hlegible : r.isLegible = true) {p : Path} (h : d.CanSave p) :
    readFile p (d.saved p (fileText r)) = .ok r := by
  rw [readFile, h.readText_saved]
  simp [Record.readRecord_fileText hi, hlegible]

/-- The record of an instruction is returned under its hash from the file that it was saved in. -/
lemma get_saved {i : Instruction} (hhash : IsHashText r.hash) (hi : r.instruction = i.snapshot)
    (hlegible : r.isLegible = true) (h : d.CanSave (s.pathOf r.hash)) :
    s.get r.hash (d.saved (s.pathOf r.hash) (fileText r)) = .ok (some r) := by
  have hisHash := isHash_of_forall hhash.notEmpty hhash.length_le hhash.hexDigit
  rw [get, hisHash, h.isFile_saved]
  simp [readFile_saved hi hlegible h, Except.map]

end Store

end Log

/-! ### Integers that are read -/

namespace Text

lemma digitIn?_getD_lt {base : Nat} (hbase : 0 < base) (c : Char) :
    (digitIn? base c).getD 0 < base := by
  cases hdigit : digitIn? base c with
  | none => exact hbase
  | some d => exact of_decide_eq_true (Option.filter_eq_some_iff.mp hdigit).2

/-- A row of digits is worth less than the power of the base that has one digit more. -/
lemma valueIn_lt {base : Nat} (hbase : 0 < base) (digits : List Char) :
    valueIn base digits < base ^ digits.length := by
  induction digits using List.reverseRecOn with
  | nil => exact Nat.one_pos
  | append_singleton t c ih =>
    have hc := digitIn?_getD_lt hbase c
    have hvalue : valueIn base (t ++ [c]) = valueIn base t * base + (digitIn? base c).getD 0 := by
      rw [valueIn, List.foldl_concat]
      rfl
    calc valueIn base (t ++ [c]) = valueIn base t * base + (digitIn? base c).getD 0 := hvalue
      _ < valueIn base t * base + base := Nat.add_lt_add_left hc _
      _ = (valueIn base t + 1) * base := (Nat.succ_mul _ _).symm
      _ ≤ base ^ t.length * base := Nat.mul_le_mul_right base ih
      _ = base ^ (t ++ [c]).length := by rw [List.length_append, List.length_singleton, pow_succ]

namespace LenientInteger

lemma isShort_of_readDigits {negative : Bool} {t : List Char} {n : Int}
    (h : readDigits negative t = .value n) : Json.isShort n = true := by
  unfold readDigits at h
  dsimp only at h
  split at h
  · cases h
  · next hlength =>
    split at h
    · cases h
    · obtain rfl := Reading.value.inj h
      have habs : (withSign negative (leadingDigits t)).natAbs = valueIn 10 (leadingDigits t) := by
        cases negative <;> simp [withSign]
      have hvalue := valueIn_lt (by decide : 0 < 10) (leadingDigits t)
      have hpower : 10 ^ (leadingDigits t).length ≤ 10 ^ maxDigits :=
        Nat.pow_le_pow_right (by decide) (Nat.not_lt.mp hlength)
      exact Json.isShort_iff.mpr (habs ▸ hvalue.trans_le hpower)

lemma isShort_of_readStrict {t : List Char} {n : Int} (h : readStrict t = .value n) :
    Json.isShort n = true := by
  unfold readStrict at h
  split at h
  · exact isShort_of_readDigits h
  · exact isShort_of_readDigits h

/-- An integer that is read from a text has few enough digits. -/
lemma isShort_of_read {t : List Char} {n : Int} (h : read t = .value n) :
    Json.isShort n = true := by
  unfold read at h
  split at h
  · next m hstrict =>
    obtain rfl := Reading.value.inj h
    exact isShort_of_readStrict hstrict
  · cases h
  · cases hclean : clean? t with
    | none => simp [hclean] at h
    | some u =>
      rw [hclean] at h
      exact isShort_of_readStrict h

end LenientInteger

end Text

lemma isShort_of_natAbs_lt {n : Int} (h : n.natAbs < Number.twoTo 63) :
    Json.isShort n = true := by
  have hword : Number.twoTo 63 < 10 ^ 19 := by decide
  have hpower : 10 ^ 19 ≤ 10 ^ Text.maxDigits := Nat.pow_le_pow_right (by decide) (by decide)
  exact Json.isShort_iff.mpr (h.trans (hword.trans_le hpower))

lemma isShort_of_writtenInteger {s : String} {n : Int} (h : writtenInteger s = .valid n) :
    Json.isShort n = true := by
  unfold writtenInteger at h
  split at h
  · next m hread =>
    obtain rfl := Checked.valid.inj h
    exact Text.LenientInteger.isShort_of_read hread
  · cases h
  · cases h

/-- An integer that is read has few enough digits if it is not written as one with too many. -/
lemma isShort_of_integer {v : Value} {n : Int} (hv : v.hasShortIntegers = true)
    (h : integer v = .valid n) : Json.isShort n = true := by
  unfold integer at h
  split at h
  · obtain rfl := Checked.valid.inj h
    exact hv
  · next b =>
    obtain rfl := Checked.valid.inj h
    cases b <;> exact isShort_of_natAbs_lt (by decide)
  · exact isShort_of_writtenInteger h
  · next bytes =>
    cases hs : encodedText? bytes with
    | none =>
      rw [hs] at h
      cases h
    | some s =>
      rw [hs] at h
      exact isShort_of_writtenInteger h
  · split at h
    · split at h
      · cases h
      · split at h
        · cases h
        · next hword =>
          obtain rfl := Checked.valid.inj h
          exact isShort_of_natAbs_lt (Nat.not_le.mp hword)
    · cases h
  · cases h

lemma isShort_of_integerFrom {least : Int} {v : Value} {n : Int} (hv : v.hasShortIntegers = true)
    (h : integerFrom least v = .valid n) : Json.isShort n = true := by
  obtain ⟨m, hm, hleast⟩ := Checked.andThen_eq_valid_iff.mp h
  by_cases hless : m < least
  · rw [if_pos hless] at hleast
    cases hleast
  · rw [if_neg hless] at hleast
    obtain rfl := Checked.valid.inj hleast
    exact isShort_of_integer hv hm

lemma hasShortIntegers_of_find? {entries : Entries} {k : Scalar} {v : Value}
    (h : Value.haveShortEntries entries = true) (hv : Table.find? entries k = some v) :
    v.hasShortIntegers = true := by
  induction entries with
  | nil => cases hv
  | cons pair rest ih =>
    obtain ⟨key, u⟩ := pair
    rw [Value.haveShortEntries, Bool.and_eq_true] at h
    rw [Table.find?] at hv
    split at hv
    · obtain rfl := Option.some.inj hv
      exact h.1
    · exact ih h.2 hv

lemma hasShortIntegers_of_given? {entries : Entries} {name : FieldName} {given : String × Value}
    (h : Value.haveShortEntries entries = true) (hgiven : name.given? entries = some given) :
    given.2.hasShortIntegers = true := by
  rw [FieldName.given?] at hgiven
  split at hgiven
  · next v hv =>
    obtain rfl := Option.some.inj hgiven
    exact hasShortIntegers_of_find? h hv
  · obtain ⟨v, hv, rfl⟩ := Option.map_eq_some_iff.mp hgiven
    exact hasShortIntegers_of_find? h hv

/-! ### Settings -/

namespace Settings

variable {s : Settings}

lemma isPlain_toValue (s : Settings) : s.toValue.IsPlain := by
  refine Value.isPlain_record (by simp) fun field hfield => ?_
  simp only [List.mem_cons, List.not_mem_nil, or_false] at hfield
  rcases hfield with rfl | rfl | rfl | rfl | rfl | rfl <;> trivial

lemma depth_toValue_le (s : Settings) : s.toValue.depth ≤ 2 := by
  refine Value.depth_record_le (n := 1) fun field hfield => ?_
  simp only [List.mem_cons, List.not_mem_nil, or_false] at hfield
  rcases hfield with rfl | rfl | rfl | rfl | rfl | rfl <;> simp [Value.depth, Path.toValue]

/-- Whether settings can be read again after they have been saved: their integers have few enough
digits. -/
def isLegible (s : Settings) : Bool := Json.isShort s.retentionDays && Json.isShort s.listLimit

lemma hasShortIntegers_toValue (s : Settings) : s.toValue.hasShortIntegers = s.isLegible := by
  rw [toValue, Value.hasShortIntegers_record, isLegible]
  simp [Value.hasShortIntegers, Path.toValue]

lemma load_saved {home p : Path} {d : Disk} (hrange : s.IsInRange) (hlegible : s.isLegible = true)
    (h : d.CanSave p) : load home p (d.saved p s.fileText) = .ok s := by
  have hdepth : s.toValue.depth ≤ Schema.maxDepth + 1 := s.depth_toValue_le.trans (by decide)
  have hread : (Settings.read home).fromText (Text.unifyLineEnds s.fileText) = .valid s := by
    rw [fileText, Reader.fromText_stored s.isPlain_toValue hdepth, hasShortIntegers_toValue,
      if_pos hlegible, read_toValue home hrange]
  rw [load, h.readText_saved]
  simp [hread, Checked.orFail]

lemma save_of_canSave {p : Path} {d : Disk} (h : d.CanSave p) :
    s.save p d = (.ok p, d.saved p s.fileText) := by
  rw [save, Disk.saveText, h.makeDirectories_eq]
  simp [h.writeText_eq]

lemma canSave_of_save {p q : Path} {d : Disk} (h : (s.save p d).1 = .ok q) : d.CanSave p := by
  unfold save Disk.saveText at h
  split at h
  · next hsave =>
    split at hsave
    · cases hsave
    · next d₁ hmake =>
      split at hsave
      · cases hsave
      · next d₂ hwrite => exact Disk.canSave_of_writeText hmake hwrite
  · cases h

/-- Settings as they come out of a document whose integers have few enough digits. -/
def IsValid (home : Path) (s : Settings) : Prop :=
  ∃ v : Value, v.hasShortIntegers = true ∧ read home v = .valid s

lemma IsValid.isInRange {home : Path} (hhome : home.IsRead) (h : s.IsValid home) : s.IsInRange := by
  obtain ⟨v, -, hread⟩ := h
  exact isInRange_of_read hhome v s hread

lemma IsValid.isLegible {home : Path} (h : s.IsValid home) : s.isLegible = true := by
  obtain ⟨v, hshort, hread⟩ := h
  obtain ⟨entries, rfl, hfields⟩ := record_eq_valid_iff.mp hread
  rw [Value.hasShortIntegers] at hshort
  simp only [readFields, Checked.seq_eq_valid_iff, Checked.map_eq_valid_iff] at hfields
  obtain ⟨_, _, ⟨_, _, ⟨_, _, ⟨_, _, ⟨_, _, ⟨_, -, rfl⟩, hdays, rfl⟩, -, rfl⟩, -, rfl⟩, -, rfl⟩,
    hlimit, rfl⟩ := hfields
  have hdefaults : Json.isShort 30 = true ∧ Json.isShort 20 = true :=
    ⟨isShort_of_natAbs_lt (by decide), isShort_of_natAbs_lt (by decide)⟩
  have hgiven {name : FieldName} {n : Int} : ∀ given ∈ name.given? entries,
      integerFrom 1 given.2 = .valid n → Json.isShort n = true := fun given hname hpart =>
    isShort_of_integerFrom (hasShortIntegers_of_given? hshort hname) hpart
  rw [isLegible, Bool.and_eq_true]
  exact ⟨of_optional_given (P := fun n => Json.isShort n = true) hdefaults.1 hgiven hdays,
    of_optional_given (P := fun n => Json.isShort n = true) hdefaults.2 hgiven hlimit⟩

end Settings

/-! ### There and back -/

/-- That a file is saved at a path exactly if it can be, and what holds of the disk afterwards. -/
structure SavesThen (d : Disk) (p : Path) (outcome : Except Failure Path × Disk)
    (holds : Disk → Prop) : Prop where
  saved : d.CanSave p → outcome.1 = .ok p ∧ holds outcome.2
  refused : ¬d.CanSave p → ∃ e, outcome.1 = .error e

/-- The record of an instruction under a proper hash is saved and then returned under its hash, and
settings are saved and then loaded from their file, whenever the disk lets the file be written. -/
theorem storedForms_readBack :
    (∀ (s : Log.Store) (r : Log.Record) (i : Instruction) (d : Disk), Log.IsHashText r.hash →
      r.instruction = i.snapshot → r.isLegible = true →
      SavesThen d (s.pathOf r.hash) (s.save r d) fun d' => s.get r.hash d' = .ok (some r)) ∧
    ∀ (home p : Path) (s : Settings) (d : Disk), home.IsRead → s.IsValid home →
      SavesThen d p (s.save p d) fun d' => Settings.load home p d' = .ok s := by
  constructor
  · intro s r i d hhash hi hlegible
    have hshallow : r.isShallow = true := by
      rw [Log.Record.isShallow, hi]
      exact decide_eq_true (i.depth_snapshot_le.trans (by decide))
    constructor
    · intro h
      rw [Log.Store.save_of_canSave hhash.hexDigit hshallow h]
      exact ⟨rfl, Log.Store.get_saved hhash hi hlegible h⟩
    · intro h
      cases hsave : (s.save r d).1 with
      | error e => exact ⟨e, rfl⟩
      | ok q => exact absurd (Log.Store.canSave_of_save hhash.hexDigit hsave) h
  · intro home p s d hhome hvalid
    constructor
    · intro h
      rw [Settings.save_of_canSave h]
      exact ⟨rfl, Settings.load_saved (hvalid.isInRange hhome) hvalid.isLegible h⟩
    · intro h
      cases hsave : (s.save p d).1 with
      | error e => exact ⟨e, rfl⟩
      | ok q => exact absurd (Settings.canSave_of_save hsave) h

/-- The record of a failure in which every text is the given one. -/
def Log.Record.ofText (t : String) : Log.Record where
  hash := "0a"
  timestamp := -1
  project := t
  module := t
  index := 0
  instruction := Instruction.snapshot ⟨t, .createFile, some t, none, none, none, none, none, none⟩
  status := .failed
  error := some t
  conditions := some []

/-- A text of a quotation mark, a backslash, both line ends, a control character and a character
outside the basic plane stands in a record and in settings, which are saved and loaded; the log of
the settings is at a path from the top of the disk. -/
theorem storedForms_readBack_of_controls :
    let t := "\"\\\r\n\x01😀"
    let log : Log.Store := ⟨["logs"]⟩
    let r := Log.Record.ofText t
    let s : Settings := ⟨⟨.slash, ["..", t]⟩, 10 ^ 20, t, false, true, 1⟩
    ((log.save r Disk.empty).1 = .ok ["logs", "0a.json"] ∧
      log.get "0a" (log.save r Disk.empty).2 = .ok (some r)) ∧
    (s.save ["c", "d.json"] Disk.empty).1 = .ok ["c", "d.json"] ∧
      Settings.load ["home"] ["c", "d.json"] (s.save ["c", "d.json"] Disk.empty).2 = .ok s := by
  intro t log r s
  have hdigits : r.hash.toList = ['0', 'a'] := by decide
  have hhash : Log.IsHashText r.hash :=
    ⟨by decide, by decide, by rw [hdigits]; simp [Log.IsHexDigit]⟩
  have hlegible : r.isLegible = true := by decide +kernel
  have hhome : Path.IsRead ["home"] := by decide
  have hrange : s.IsInRange := ⟨by decide, by decide, by decide⟩
  have hvalid : s.IsValid ["home"] :=
    ⟨s.toValue, by decide +kernel, Settings.read_toValue ["home"] hrange⟩
  have hpath : log.pathOf r.hash = ["logs", "0a.json"] := by decide +kernel
  have hlog : Disk.empty.CanSave (log.pathOf r.hash) :=
    ⟨by decide +kernel, by decide +kernel, by decide +kernel⟩
  have hfile : Disk.empty.CanSave ["c", "d.json"] :=
    ⟨by decide +kernel, by decide +kernel, by decide +kernel⟩
  have hrecord := (storedForms_readBack.1 log r _ _ hhash rfl hlegible).saved hlog
  rw [hpath] at hrecord
  exact ⟨hrecord, (storedForms_readBack.2 _ _ s _ hhome hvalid).saved hfile⟩

end Scaffold
