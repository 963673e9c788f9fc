import Scaffold.Proofs.LogPruning
import Scaffold.Proofs.StoredForms

/-!
# Looking a record up by its hash

What is looked up has to have the form of a hash, so nothing but a file directly in the directory of
the store can be reached by it, and no other file bears on the answer. The form is a little wider
than that of a hash: one line feed may follow the digits, and is then part of the name of the file.
-/

namespace Scaffold

namespace Disk

variable {d d' : Disk} {p : Path}

/-- Two disks with the same directories. -/
def SameDirectories (d d' : Disk) : Prop :=
  ∀ l, d.entry? l = some .directory ↔ d'.entry? l = some .directory

lemma SameDirectories.symm (h : d.SameDirectories d') : d'.SameDirectories d := fun l => (h l).symm

lemma SameDirectories.keeps (h : d.SameDirectories d') : d.KeepsDirectories d' := fun l => (h l).mp

/-- Where the directories are the same, what a path leads to depends on no file but its own. -/
lemma SameDirectories.find?_eq (h : d.SameDirectories d')
    (hplace : d.entry? p.location = d'.entry? p.location) : d.find? p = d'.find? p := by
  have hsome : ∀ {d₁ d₂ : Disk} {e : Entry}, d₁.SameDirectories d₂ →
      d₁.entry? p.location = d₂.entry? p.location → d₁.find? p = .ok (some e) →
      d₂.find? p = .ok (some e) := by
    intro d₁ d₂ e hsame hentry hfind
    obtain ⟨hlocate, hthere⟩ := find?_eq_some_iff.mp hfind
    exact find?_eq_some_iff.mpr ⟨locate_mono hsame.keeps hlocate, hentry ▸ hthere⟩
  have herror : ∀ {d₁ d₂ : Disk} {e : DiskError}, d₁.SameDirectories d₂ →
      d₁.find? p = .error e → d₂.find? p = .error e := by
    intro d₁ d₂ e hsame hfind
    obtain ⟨hlong, he⟩ := find?_eq_error_iff.mp hfind
    exact find?_eq_error_iff.mpr ⟨hlong.mono hsame.keeps, he⟩
  cases hfind : d.find? p with
  | error e => exact (herror h hfind).symm
  | ok found =>
    cases found with
    | some e => exact (hsome h hplace hfind).symm
    | none =>
      -- were there anything on the other disk, it would be found on this one too
      cases hfind' : d'.find? p with
      | error e =>
        rw [herror h.symm hfind'] at hfind
        cases hfind
      | ok found' =>
        cases found' with
        | none => rfl
        | some e =>
          rw [hsome h.symm hplace.symm hfind'] at hfind
          cases hfind

end Disk

namespace Log

open Document

variable {hash : String}

/-! ### What is looked up -/

/-- What a record is looked up by: a hash, or a hash with a line feed after it. -/
def IsLookedUp (hash : String) : Prop :=
  IsHashText hash ∨ ∃ digits, IsHashText digits ∧ hash = digits ++ "\n"

lemma isHexRow_iff {t : List Char} :
    (!t.isEmpty && t.length ≤ 64 && t.all fun c =>
      (48 ≤ c.toNat && c.toNat ≤ 57) || (97 ≤ c.toNat && c.toNat ≤ 102)) = true ↔
      IsHashText (String.ofList t) := by
  have hdigit : ∀ c : Char,
      ((48 ≤ c.toNat && c.toNat ≤ 57) || (97 ≤ c.toNat && c.toNat ≤ 102)) = true ↔
        IsHexDigit c := fun c => by simp [IsHexDigit]
  simp only [Bool.and_eq_true, List.all_eq_true, hdigit, decide_eq_true_eq, Bool.not_eq_true',
    List.isEmpty_eq_false_iff]
  constructor
  · rintro ⟨⟨hne, hle⟩, hdigits⟩
    exact ⟨by simpa using hne, by simpa using hle, by simpa using hdigits⟩
  · rintro ⟨hne, hle, hdigits⟩
    exact ⟨⟨by simpa using hne, by simpa using hle⟩, by simpa using hdigits⟩

lemma isHash_iff : isHash hash = true ↔ IsLookedUp hash := by
  rw [isHash]
  by_cases hlast : hash.toList.getLast? = some '\n'
  · simp only [if_pos hlast]
    rw [isHexRow_iff, IsLookedUp]
    obtain ⟨t, ht⟩ := List.getLast?_eq_some_iff.mp hlast
    rw [ht, List.dropLast_concat]
    constructor
    · intro hdigits
      refine .inr ⟨String.ofList t, hdigits, ?_⟩
      rw [← String.toList_inj, ht, String.toList_append, String.toList_ofList]
      rfl
    · rintro (hhash | ⟨digits, hdigits, rfl⟩)
      · exact absurd (hhash.hexDigit '\n' (by simp [ht])) (by decide)
      · rw [String.toList_append] at ht
        obtain ⟨rfl, -⟩ := List.append_inj' ht rfl
        rwa [String.ofList_toList]
  · simp only [if_neg hlast]
    rw [isHexRow_iff, String.ofList_toList, IsLookedUp, or_iff_left]
    rintro ⟨digits, -, rfl⟩
    exact hlast (by simp [String.toList_append])

/-- The file that is looked into lies directly in the directory of the store. -/
lemma IsLookedUp.pathOf_eq (h : IsLookedUp hash) (s : Store) :
    s.pathOf hash = s.directory.child (hash ++ ".json") := by
  rcases h with hhash | ⟨digits, hhash, rfl⟩
  · exact Log.pathOf_eq s hhash.hexDigit
  · refine pathOf_eq_of_not_mem s fun hmem => ?_
    have hdigits : '/' ∉ (digits ++ ".json").toList :=
      not_mem_fileName hhash.hexDigit (.inl rfl)
    simp only [String.toList_append, List.mem_append, not_or] at hmem hdigits
    rcases hmem with (hmem | hmem) | hmem
    · exact hdigits.1 hmem
    · exact absurd hmem (by decide)
    · exact hdigits.2 hmem

/-! ### What is found -/

/-- The record that the bytes of a log file hold. -/
def recordOf (p : Path) (bytes : List UInt8) : Except Failure Record :=
  match Text.Utf8.decode bytes with
  | .error fault => .error (.log p (.undecodable fault))
  | .ok t =>
    match readRecord (Text.unifyLineEnds t) with
    | .valid r => .ok r
    | .invalid problems => .error (.log p (.invalid problems))

section Lookup

variable {s : Store} {d d' : Disk} {p : Path} {bytes : List UInt8}

lemma readFile_of_find? (h : d.find? p = .ok (some (.file bytes))) :
    Store.readFile p d = recordOf p bytes := by
  rw [Store.readFile, Disk.readText_of_find? h, recordOf]
  cases Text.Utf8.decode bytes <;> rfl

/-- A look-up asks the disk for one thing only: what the path of the hash leads to. -/
lemma Store.get_eq_find? (h : IsLookedUp hash) :
    s.get hash d =
      match d.find? (s.pathOf hash) with
      | .error e => .error (.disk e)
      | .ok (some (.file bytes)) => (recordOf (s.pathOf hash) bytes).map some
      | .ok _ => .ok none := by
  rw [get, isHash_iff.mpr h, Disk.isFile]
  cases hfind : d.find? (s.pathOf hash) with
  | error e => rfl
  | ok found =>
    rcases found with _ | bytes | _
    · rfl
    · simp only [← readFile_of_find? hfind]
      rfl
    · rfl

lemma Store.get_of_not_isLookedUp (h : ¬IsLookedUp hash) (d : Disk) : s.get hash d = .ok none := by
  rw [get, if_pos]
  rw [← isHash_iff] at h
  simpa using h

lemma Store.get_congr (hdirectories : d.SameDirectories d')
    (hplace : d.entry? (s.pathOf hash).location = d'.entry? (s.pathOf hash).location) :
    s.get hash d = s.get hash d' := by
  by_cases h : IsLookedUp hash
  · rw [get_eq_find? h, get_eq_find? h, hdirectories.find?_eq hplace]
  · rw [get_of_not_isLookedUp h, get_of_not_isLookedUp h]

lemma recordOf_fileText {r : Record} (hr : r.IsMade) (hlegible : r.isLegible = true) (p : Path) :
    recordOf p (Text.Utf8.encode (Store.fileText r)) = .ok r := by
  simp only [recordOf, Text.Utf8.decode_encode, hr.readRecord_fileText, hlegible, if_true]

/-- What comes of the bytes of a file is a record, or the log says why it is none. -/
lemma recordOf_cases (p : Path) (bytes : List UInt8) :
    (∃ r, recordOf p bytes = .ok r) ∨ ∃ cause, recordOf p bytes = .error (.log p cause) := by
  unfold recordOf
  split
  · exact .inr ⟨_, rfl⟩
  · split
    · exact .inl ⟨_, rfl⟩
    · exact .inr ⟨_, rfl⟩

/-- A record is returned, or the log says why it cannot be read, exactly if there is a file. -/
lemma Store.get_answers_iff (h : IsLookedUp hash) :
    ((∃ r, s.get hash d = .ok (some r)) ∨ ∃ p cause, s.get hash d = .error (.log p cause)) ↔
      d.isFile (s.pathOf hash) = .ok true := by
  rw [get_eq_find? h, Disk.isFile]
  cases d.find? (s.pathOf hash) with
  | error e => simp [Except.map]
  | ok found =>
    rcases found with _ | bytes | _
    · simp [Except.map]
    · rcases recordOf_cases (s.pathOf hash) bytes with ⟨r, hr⟩ | ⟨cause, hcause⟩
      · simp [hr, Except.map]
      · simp [hcause, Except.map]
    · simp [Except.map]

end Lookup

/-- Only what has the form of a hash is looked up, and then in one file, which lies directly in the
directory of the store. No other file bears on the answer, and there is a record or a complaint of
the log exactly if that file is there. -/
theorem Store.get_readsOneFile (s : Store) (hash : String) :
    (¬IsLookedUp hash → ∀ d, s.get hash d = .ok none) ∧
    (IsLookedUp hash → s.pathOf hash = s.directory.child (hash ++ ".json")) ∧
    (∀ d d' : Disk, d.SameDirectories d' →
      d.entry? (s.pathOf hash).location = d'.entry? (s.pathOf hash).location →
      s.get hash d = s.get hash d') ∧
    ∀ d : Disk,
      ((∃ r, s.get hash d = .ok (some r)) ∨ ∃ p cause, s.get hash d = .error (.log p cause)) ↔
        IsLookedUp hash ∧ d.isFile (s.pathOf hash) = .ok true := by
  refine ⟨get_of_not_isLookedUp, fun h => h.pathOf_eq s, fun _ _ => get_congr, fun d => ?_⟩
  by_cases h : IsLookedUp hash
  · rw [get_answers_iff h, and_iff_right h]
  · simp [get_of_not_isLookedUp h, h]

/-- The directory of a store with the file of one record, whose name has a line feed in it. -/
def lineFeedDisk (r : Record) : Disk :=
  ⟨[(["logs"], .directory), (["logs", "ab\n.json"], .file (Text.Utf8.encode (Store.fileText r)))]⟩

/-- A record is found under two digits and a line feed, which is no hash. -/
theorem Store.not_get_readsOneFile :
    ¬IsHashText "ab\n" ∧
      (⟨["logs"]⟩ : Store).get "ab\n" (lineFeedDisk (Record.ofCount 7 50)) =
        .ok (some (Record.ofCount 7 50)) := by
  refine ⟨fun h => absurd (h.hexDigit '\n' (by decide)) (by decide), ?_⟩
  have hlookedUp : IsLookedUp "ab\n" :=
    .inr ⟨"ab", ⟨by decide, by decide, by simp [IsHexDigit]⟩, rfl⟩
  have hlegible : (Record.ofCount 7 50).isLegible = true := by
    rw [Record.isLegible_ofCount]
    decide +kernel
  have hfind : ∀ r, (lineFeedDisk r).find? ["logs", "ab\n.json"] =
      .ok (some (.file (Text.Utf8.encode (Store.fileText r)))) :=
    fun r => Disk.find?_eq_some_iff.mpr ⟨rfl, rfl⟩
  rw [get_eq_find? hlookedUp, hlookedUp.pathOf_eq]
  have hpath : Path.child ["logs"] ("ab\n" ++ ".json") = ["logs", "ab\n.json"] := rfl
  simp only [hpath, hfind]
  rw [recordOf_fileText (Record.isMade_ofCount 7 50) hlegible]
  rfl

end Log

end Scaffold
