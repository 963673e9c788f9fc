import Mathlib.Data.List.Nodup
import Scaffold.Proofs.ContentGuards
import Scaffold.Proofs.LogRefinement
import Scaffold.Proofs.SuccessiveEdits

/-!
# What pruning removes

Whatever stands in the directory of a log, what pruning removes are the files that hold a record
from before the cutoff, under whatever name, and nothing else. To prune the log is therefore to
filter the disk, so that the cutoff of two prunings, one after the other, is the later one of the
two.
-/

namespace Scaffold

/-! ### Files that are removed -/

namespace Disk

variable {d : Disk} {p : Path} {names : List String} {l : Location} {t : List Char}
  {gone : Location → Bool}

/-- What is left on a disk was there before. -/
lemma entry?_of_without {e : Entry} (h : Disk.entry? (d.without gone) l = some e) :
    d.entry? l = some e := by
  by_cases hnil : l = []
  · rw [hnil, entry?_nil] at h ⊢
    exact h
  · rw [entry?_without gone hnil] at h
    split at h
    · cases h
    · exact h

lemma without_without (gone gone' : Location → Bool) :
    (d.without gone).without gone' = d.without fun l => gone l || gone' l := by
  simp only [without, List.filter_filter, Bool.not_or, Bool.and_comm]

lemma keepsDirectories_without (h : ∀ l, gone l = true → d.entry? l ≠ some .directory) :
    d.KeepsDirectories (d.without gone) := by
  intro l hl
  by_cases hnil : l = []
  · rw [hnil, entry?_nil]
  · rw [entry?_without gone hnil, if_neg fun hgone => h l hgone hl, hl]

lemma mem_names {name : String} {e : Entry} (h : d.entry? (l ++ [name]) = some e) :
    name ∈ d.names l := by
  rw [entry?_child] at h
  rw [names_eq]
  exact List.mem_map.mpr ⟨(name, e), Table.mem_of_find? h, rfl⟩

lemma nodup_names_without (h : (d.names l).Nodup) : ((d.without gone).names l).Nodup :=
  h.sublist (List.filter_sublist.filterMap _)

lemma walk_nameTooLong_mono {d' : Disk} (hkept : d.KeepsDirectories d')
    (h : d.walk l names = .error .nameTooLong) : d'.walk l names = .error .nameTooLong := by
  induction names generalizing l with
  | nil => cases h
  | cons name rest ih =>
    rw [walk.eq_def] at h ⊢
    simp only at h ⊢
    split at h
    · next hup =>
      rw [if_pos hup]
      exact ih h
    · next hup =>
      rw [if_neg hup]
      split at h
      · next hlong => rw [if_pos hlong]
      · next hlong =>
        rw [if_neg hlong]
        split at h
        · cases h
        · split at h
          · cases h
          · cases h
          · next hdirectory =>
            simp only [hkept _ hdirectory]
            exact ih h

/-- What is too long among fewer directories is too long among more. -/
lemma TooLong.mono {d' : Disk} (hkept : d.KeepsDirectories d') (h : d.TooLong p) :
    d'.TooLong p := by
  obtain ⟨hnull, hsize | hwalk⟩ := h
  · exact ⟨hnull, .inl hsize⟩
  · exact ⟨hnull, .inr (walk_nameTooLong_mono hkept hwalk)⟩

/-- Where only files are removed, the others are read as before. -/
lemma readText_without_iff (h : ∀ l, gone l = true → d.entry? l ≠ some .directory) :
    (d.without gone).readText p = .ok t ↔ d.readText p = .ok t ∧ gone p.location = false := by
  constructor
  · intro hread
    obtain ⟨bytes, -, hfile, -, -⟩ := readText_eq_ok hread
    have hold := entry?_of_without hfile
    refine ⟨readText_of_kept hread (fun l => entry?_of_without) (hold.trans hfile.symm), ?_⟩
    rw [← Bool.not_eq_true]
    intro hgone
    have hnil : p.location ≠ [] := by
      intro hnil
      rw [hnil, entry?_nil] at hold
      cases hold
    rw [entry?_without gone hnil, if_pos hgone] at hfile
    cases hfile
  · rintro ⟨hread, hkept⟩
    obtain ⟨bytes, -, hfile, -, -⟩ := readText_eq_ok hread
    refine readText_of_kept hread (keepsDirectories_without h) ?_
    by_cases hnil : p.location = []
    · rw [hnil, entry?_nil, entry?_nil]
    · rw [entry?_without gone hnil, hkept, if_neg Bool.false_ne_true]

end Disk

namespace Log

open Document Schema

section Pruning

variable {s : Store} {d : Disk} {l : Location} {time : Int}

/-! ### Logs that are too old -/

/-- A file directly in the directory of a store that listings look at, and that holds a record from
before a time. -/
def Store.IsExpired (s : Store) (d : Disk) (time : Int) (l : Location) : Prop :=
  ∃ name t r, l = s.directory.location ++ [name] ∧ isLogName name = true ∧
    d.readText (s.directory.child name) = .ok t ∧ readRecord t = .valid r ∧ r.timestamp < time

lemma location_of_readText {name : String} {t : List Char}
    (h : d.readText (s.directory.child name) = .ok t) :
    (s.directory.child name).location = s.directory.location ++ [name] := by
  refine Disk.location_child_of_ne s.directory fun hup => ?_
  have hends := Disk.endsUpward_of_readText h
  rw [Path.endsUpward_child_iff.mpr hup] at hends
  cases hends

lemma leadsToDirectory_of_readText {name : String} {t : List Char}
    (h : d.readText (s.directory.child name) = .ok t) : d.LeadsToDirectory s.directory := by
  obtain ⟨bytes, hfind⟩ := Disk.find?_of_readText h
  have hparent := Disk.leadsToDirectory_parent (Disk.find?_eq_some_iff.mp hfind).1
  rwa [Path.parent_child] at hparent

lemma exists_bytes_of_readText {name : String} {t : List Char}
    (h : d.readText (s.directory.child name) = .ok t) :
    ∃ bytes, d.entry? (s.directory.location ++ [name]) = some (.file bytes) := by
  obtain ⟨bytes, -, hfile, -, -⟩ := Disk.readText_eq_ok h
  exact ⟨bytes, location_of_readText h ▸ hfile⟩

lemma Store.IsExpired.exists_bytes (h : s.IsExpired d time l) :
    ∃ bytes, d.entry? l = some (.file bytes) := by
  obtain ⟨name, t, r, rfl, -, hread, -, -⟩ := h
  exact exists_bytes_of_readText hread

lemma Store.IsExpired.mono {time' : Int} (h : s.IsExpired d time l) (hle : time ≤ time') :
    s.IsExpired d time' l := by
  obtain ⟨name, t, r, hl, hname, hread, hr, htime⟩ := h
  exact ⟨name, t, r, hl, hname, hread, hr, lt_of_lt_of_le htime hle⟩

/-- Where only files are removed, what is left of the logs is as old as before. -/
lemma Store.isExpired_without_iff {gone : Location → Bool}
    (h : ∀ l, gone l = true → d.entry? l ≠ some .directory) :
    s.IsExpired (d.without gone) time l ↔ s.IsExpired d time l ∧ gone l = false := by
  constructor
  · rintro ⟨name, t, r, rfl, hname, hread, hr, htime⟩
    obtain ⟨hread', hkept⟩ := (Disk.readText_without_iff h).mp hread
    rw [location_of_readText hread'] at hkept
    exact ⟨⟨name, t, r, rfl, hname, hread', hr, htime⟩, hkept⟩
  · rintro ⟨⟨name, t, r, rfl, hname, hread, hr, htime⟩, hkept⟩
    rw [← location_of_readText hread] at hkept
    exact ⟨name, t, r, rfl, hname, (Disk.readText_without_iff h).mpr ⟨hread, hkept⟩, hr, htime⟩

/-! ### Logs that are found -/

/-- The place of a log file that was found. -/
def Store.placeOf (s : Store) (f : Found) : Location := s.directory.location ++ [f.name]

lemma Store.readFile_eq_ok_iff {p : Path} {r : Record} :
    readFile p d = .ok r ↔ ∃ t, d.readText p = .ok t ∧ readRecord t = .valid r := by
  rw [readFile]
  cases d.readText p with
  | error e => cases e with
    | disk e => cases e <;> simp
    | undecodable fault => simp
  | ok t => cases hr : readRecord t <;> simp [hr]

/-- What is found are the files that hold a record, under the names that listings look at. -/
lemma Store.mem_readable_iff {f : Found} :
    f ∈ s.readable s.directory.location d ↔ isLogName f.name = true ∧
      ∃ t, d.readText (s.directory.child f.name) = .ok t ∧ readRecord t = .valid f.record := by
  simp only [readable, List.mem_filterMap, List.mem_mergeSort, List.mem_filter]
  rw [← readFile_eq_ok_iff]
  constructor
  · rintro ⟨name, ⟨-, hname⟩, hfound⟩
    split at hfound
    · next r hr =>
      obtain rfl := Option.some.inj hfound
      exact ⟨hname, hr⟩
    · cases hfound
  · rintro ⟨hname, hr⟩
    obtain ⟨t, hread, -⟩ := readFile_eq_ok_iff.mp hr
    obtain ⟨bytes, hfile⟩ := exists_bytes_of_readText hread
    refine ⟨f.name, ⟨Disk.mem_names hfile, hname⟩, ?_⟩
    simp only [hr]

/-- Every place is found once. -/
lemma Store.nodup_readable (hnames : (d.names s.directory.location).Nodup) :
    ((s.readable s.directory.location d).map s.placeOf).Nodup := by
  have hsorted := ((List.mergeSort_perm ((d.names s.directory.location).filter isLogName)
    fun a b => a ≤ b).nodup_iff).mpr (hnames.filter isLogName)
  rw [readable, List.map_filterMap]
  refine List.Nodup.filterMap (fun name name' place hplace hplace' => ?_) hsorted
  obtain ⟨f, hf, rfl⟩ := Option.map_eq_some_iff.mp hplace
  obtain ⟨f', hf', hplace'⟩ := Option.map_eq_some_iff.mp hplace'
  split at hf <;> cases hf
  split at hf' <;> cases hf'
  simpa [placeOf] using hplace'.symm

lemma Store.exists_scan_perm (h : d.LeadsToDirectory s.directory) :
    ∃ found, s.scan d = .ok found ∧ found.Perm (s.readable s.directory.location d) := by
  rw [scan, h.isDirectory, h.located]
  exact ⟨_, rfl, List.mergeSort_perm _ _⟩

/-- A store whose directory can be asked for finds every file in it that holds a record, once. -/
lemma Store.exists_scan_eq (hdir : ¬d.TooLong s.directory)
    (hnames : (d.names s.directory.location).Nodup) :
    ∃ found, s.scan d = .ok found ∧ (found.map s.placeOf).Nodup ∧
      ∀ f, f ∈ found ↔ isLogName f.name = true ∧
        ∃ t, d.readText (s.directory.child f.name) = .ok t ∧ readRecord t = .valid f.record := by
  cases hdirectory : d.isDirectory s.directory with
  | error e => exact absurd (Disk.map_find?_eq_error_iff.mp hdirectory).1 hdir
  | ok there =>
    cases there with
    | false =>
      rw [scan, hdirectory]
      refine ⟨[], rfl, List.nodup_nil, fun f => iff_of_false List.not_mem_nil ?_⟩
      rintro ⟨-, t, hread, -⟩
      rw [(leadsToDirectory_of_readText hread).isDirectory] at hdirectory
      cases hdirectory
    | true =>
      obtain ⟨found, hscan, hperm⟩ := exists_scan_perm (Disk.isDirectory_iff.mp hdirectory)
      refine ⟨found, hscan, ?_, fun f => ?_⟩
      · exact (hperm.map s.placeOf).nodup_iff.mpr (nodup_readable hnames)
      · rw [hperm.mem_iff, mem_readable_iff]

/-! ### Pruning -/

/-- Files that are removed one after the other are filtered out of the disk. -/
lemma Store.foldl_withoutFound {found : List Found}
    (hread : ∀ f ∈ found, ∃ t, d.readText (s.directory.child f.name) = .ok t)
    (hnodup : (found.map s.placeOf).Nodup) :
    found.foldl s.withoutFound d = d.without (· ∈ found.map s.placeOf) := by
  induction found generalizing d with
  | nil => simp [Disk.without]
  | cons f rest ih =>
    obtain ⟨⟨t, hf⟩, hrest⟩ := List.forall_mem_cons.mp hread
    rw [List.map_cons, List.nodup_cons] at hnodup
    have hplace := location_of_readText hf
    obtain ⟨bytes, hfile⟩ := exists_bytes_of_readText hf
    have hstep : s.withoutFound d f = d.without (· = s.placeOf f) := by
      rw [withoutFound, Disk.removeFile_of_readText hf, hplace]
      rfl
    have hfiles : ∀ l, decide (l = s.placeOf f) = true → d.entry? l ≠ some .directory := by
      intro l hl
      rw [of_decide_eq_true hl, placeOf, hfile]
      simp
    have hleft : ∀ g ∈ rest, ∃ t, (d.without (· = s.placeOf f)).readText
        (s.directory.child g.name) = .ok t := by
      intro g hg
      obtain ⟨t, hread⟩ := hrest g hg
      refine ⟨t, (Disk.readText_without_iff hfiles).mpr ⟨hread, decide_eq_false fun heq => ?_⟩⟩
      rw [location_of_readText hread] at heq
      exact hnodup.1 (heq ▸ List.mem_map_of_mem (f := s.placeOf) hg)
    rw [List.foldl_cons, hstep, ih hleft hnodup.2, Disk.without_without]
    congr 1
    funext l
    rw [List.map_cons, ← Bool.decide_or]
    simp only [List.mem_cons]

/-- To prune a log is to filter its logs from before the cutoff out of the disk, and to count them. -/
theorem Store.exists_prune_eq (hdir : ¬d.TooLong s.directory)
    (hnames : (d.names s.directory.location).Nodup) (days now : Int) :
    ∃ gone : List Location, gone.Nodup ∧
      (∀ l, l ∈ gone ↔ s.IsExpired d (cutoff days now) l) ∧
      s.prune days now d = (.ok gone.length, d.without (· ∈ gone)) := by
  obtain ⟨found, hscan, hnodup, hfound⟩ := exists_scan_eq hdir hnames
  have hold : (found.filter fun f => f.record.timestamp < cutoff days now).Sublist found :=
    List.filter_sublist
  refine ⟨_, hnodup.sublist (hold.map s.placeOf), fun l => ?_, ?_⟩
  · simp only [List.mem_map, List.mem_filter, decide_eq_true_eq, hfound]
    constructor
    · rintro ⟨f, ⟨⟨hname, t, hread, hr⟩, htime⟩, rfl⟩
      exact ⟨f.name, t, f.record, rfl, hname, hread, hr, htime⟩
    · rintro ⟨name, t, r, rfl, hname, hread, hr, htime⟩
      exact ⟨⟨name, r⟩, ⟨⟨hname, t, hread, hr⟩, htime⟩, rfl⟩
  · have hread : ∀ f ∈ found.filter fun f => f.record.timestamp < cutoff days now,
        ∃ t, d.readText (s.directory.child f.name) = .ok t := by
      intro f hf
      obtain ⟨-, t, hread, -⟩ := (hfound f).mp (hold.subset hf)
      exact ⟨t, hread⟩
    rw [prune, hscan, ← foldl_withoutFound hread (hnodup.sublist (hold.map s.placeOf)),
      List.length_map]
    rfl

/-- What pruning removes is told by the logs from before the cutoff, in whatever order. -/
lemma Store.prune_eq (hdir : ¬d.TooLong s.directory)
    (hnames : (d.names s.directory.location).Nodup) {days now : Int} {gone : List Location}
    (hnodup : gone.Nodup) (hgone : ∀ l, l ∈ gone ↔ s.IsExpired d (cutoff days now) l) :
    s.prune days now d = (.ok gone.length, d.without (· ∈ gone)) := by
  obtain ⟨gone', hnodup', hgone', hprune⟩ := exists_prune_eq hdir hnames days now
  have hsame : ∀ l, l ∈ gone' ↔ l ∈ gone := fun l => (hgone' l).trans (hgone l).symm
  rw [hprune, ((List.perm_ext_iff_of_nodup hnodup' hnodup).mpr hsame).length_eq]
  simp only [hsame]

/-- What is left to pruning after some logs have been removed. -/
lemma Store.exists_prune_without_eq (hdir : ¬d.TooLong s.directory)
    (hnames : (d.names s.directory.location).Nodup) {gone : List Location}
    (hgone : ∀ l ∈ gone, s.IsExpired d time l) (days now : Int) :
    ∃ gone' : List Location, gone'.Nodup ∧
      (∀ l, l ∈ gone' ↔ s.IsExpired d (cutoff days now) l ∧ l ∉ gone) ∧
      s.prune days now (d.without (· ∈ gone)) =
        (.ok gone'.length, d.without (· ∈ gone ++ gone')) := by
  have hfiles : ∀ l, decide (l ∈ gone) = true → d.entry? l ≠ some .directory := by
    intro l hl
    obtain ⟨bytes, hfile⟩ := (hgone l (of_decide_eq_true hl)).exists_bytes
    rw [hfile]
    simp
  obtain ⟨gone', hnodup', hgone', hprune⟩ := exists_prune_eq
    (d := d.without (· ∈ gone)) (fun h => hdir (h.mono fun l => Disk.entry?_of_without))
    (Disk.nodup_names_without hnames) days now
  refine ⟨gone', hnodup', fun l => ?_, ?_⟩
  · rw [hgone', isExpired_without_iff hfiles, decide_eq_false_iff_not]
  · rw [hprune, Disk.without_without]
    simp only [List.mem_append, Bool.decide_or]

end Pruning

/-- Pruning removes the files directly in the directory of a log that are named as logs are and hold
a record from before the cutoff, and counts them. Every other entry of the disk stays as it is. To
prune again removes nothing, and two prunings, whatever their cutoffs, remove together what the one
with the later cutoff removes alone. -/
theorem Store.prune_removesExpired {s : Store} {d : Disk} (hdir : ¬d.TooLong s.directory)
    (hnames : (d.names s.directory.location).Nodup) (days now : Int) :
    ∃ (gone : List Location) (d' : Disk),
      s.prune days now d = (.ok gone.length, d') ∧ gone.Nodup ∧
      (∀ l, l ∈ gone ↔ s.IsExpired d (now - 86400000 * days) l) ∧
      (∀ l, d'.entry? l = if l ∈ gone then none else d.entry? l) ∧
      s.prune days now d' = (.ok 0, d') ∧
      ∀ days' now' : Int, ∃ n d'', s.prune days' now' d' = (.ok n, d'') ∧
        (now - 86400000 * days ≤ now' - 86400000 * days' →
          s.prune days' now' d = (.ok (gone.length + n), d'')) ∧
        (now' - 86400000 * days' ≤ now - 86400000 * days →
          s.prune days now d = (.ok (gone.length + n), d'')) := by
  have hcutoff : ∀ days now : Int, cutoff days now = now - 86400000 * days := fun days now => by
    rw [cutoff, dayMilliseconds, mul_comm]
  obtain ⟨gone, hnodup, hgone, hprune⟩ := exists_prune_eq hdir hnames days now
  have hagain := exists_prune_without_eq hdir hnames fun l => (hgone l).mp
  -- a second pruning with an earlier cutoff has nothing left to remove
  have hnone : ∀ {days' now' : Int} {gone' : List Location}, cutoff days' now' ≤ cutoff days now →
      (∀ l, l ∈ gone' ↔ s.IsExpired d (cutoff days' now') l ∧ l ∉ gone) → gone' = [] := by
    intro days' now' gone' hle hgone'
    refine List.eq_nil_iff_forall_not_mem.mpr fun l hl => ?_
    obtain ⟨hexpired, hleft⟩ := (hgone' l).mp hl
    exact hleft ((hgone l).mpr (hexpired.mono hle))
  refine ⟨gone, _, hprune, hnodup, fun l => hcutoff days now ▸ hgone l, fun l => ?_, ?_,
    fun days' now' => ?_⟩
  · by_cases hnil : l = []
    · have hkept : l ∉ gone := by
        intro hl
        obtain ⟨bytes, hfile⟩ := ((hgone l).mp hl).exists_bytes
        rw [hnil, Disk.entry?_nil] at hfile
        cases hfile
      rw [if_neg hkept, hnil, Disk.entry?_nil, Disk.entry?_nil]
    · rw [Disk.entry?_without _ hnil]
      simp only [decide_eq_true_eq]
  · obtain ⟨gone', -, hgone', hprune'⟩ := hagain days now
    obtain rfl := hnone le_rfl hgone'
    rwa [List.append_nil] at hprune'
  · obtain ⟨gone', hnodup', hgone', hprune'⟩ := hagain days' now'
    rw [← hcutoff, ← hcutoff]
    refine ⟨gone'.length, _, hprune', fun hle => ?_, fun hle => ?_⟩
    · have hboth : (gone ++ gone').Nodup :=
        hnodup.append hnodup' fun l hl hl' => ((hgone' l).mp hl').2 hl
      rw [← List.length_append]
      refine prune_eq hdir hnames hboth fun l => ?_
      rw [List.mem_append, hgone']
      have hlater : l ∈ gone → s.IsExpired d (cutoff days' now') l :=
        fun hl => ((hgone l).mp hl).mono hle
      tauto
    · obtain rfl := hnone hle hgone'
      rw [List.append_nil]
      exact hprune

/-- The same record under two names that are no hashes, a record from the time of the cutoff, a file
that is not UTF-8, and a directory. -/
theorem Store.prune_removesExpired_of_two :
    let s : Store := ⟨["logs"]⟩
    let record (time : Int) : Entry :=
      .file (Text.Utf8.encode (Store.fileText (Record.ofCount 7 time)))
    let d : Disk := ⟨[(["logs"], .directory), (["logs", "b.json"], record 50),
      (["logs", "a.json"], record 50), (["logs", "c.json"], record 100),
      (["logs", "d.json"], .file [255]), (["logs", "e.json"], .directory)]⟩
    ¬d.TooLong s.directory ∧ (d.names s.directory.location).Nodup ∧
      ∃ n d', s.prune 1 86400100 d = (.ok n, d') ∧ s.prune 1 86400100 d' = (.ok 0, d') ∧
        d'.entry? ["logs", "a.json"] = none ∧ d'.entry? ["logs", "b.json"] = none ∧
        d'.entry? ["logs", "c.json"] = some (record 100) ∧
        d'.entry? ["logs", "d.json"] = some (.file [255]) := by
  intro s record d
  have hdir : ¬d.TooLong s.directory := by decide +kernel
  have hnames : (d.names s.directory.location).Nodup := by decide +kernel
  obtain ⟨gone, d', hprune, -, hgone, hentry, hagain, -⟩ :=
    prune_removesExpired hdir hnames 1 86400100
  have hrecord : ∀ time, Json.isShort time = true →
      readRecord (Text.unifyLineEnds (fileText (Record.ofCount 7 time))) =
        .valid (Record.ofCount 7 time) := by
    intro time htime
    have hcount : Json.isShort 7 = true := by decide +kernel
    rw [(Record.isMade_ofCount 7 time).readRecord_fileText, Record.isLegible_ofCount, htime, hcount]
    rfl
  have htext : ∀ name time, d.locate ["logs", name] = .ok ["logs", name] →
      d.entry? ["logs", name] = some (record time) →
      d.readText ["logs", name] = .ok (Text.unifyLineEnds (fileText (Record.ofCount 7 time))) := by
    intro name time hlocate hfile
    rw [Disk.readText, Disk.readFile, Disk.lookup, hlocate]
    simp only [hfile, record, Text.Utf8.decode_encode]
  have hold : ∀ name, d.locate ["logs", name] = .ok ["logs", name] →
      d.entry? ["logs", name] = some (record 50) → isLogName name = true →
      ["logs", name] ∈ gone := fun name hlocate hfile hname =>
    (hgone _).mpr ⟨name, _, _, rfl, hname, htext name 50 hlocate hfile,
      hrecord 50 (by decide +kernel), by decide⟩
  have hnew : ["logs", "c.json"] ∉ gone := by
    intro hmem
    obtain ⟨name, t, r, hname, -, hread, hr, htime⟩ := (hgone _).mp hmem
    obtain rfl : "c.json" = name := by simpa using congrArg List.getLast? hname
    have htext' := (htext "c.json" 100 (by decide +kernel) rfl).symm.trans hread
    rw [← Except.ok.inj htext', hrecord 100 (by decide +kernel)] at hr
    rw [← Checked.valid.inj hr] at htime
    exact absurd htime (by decide)
  have hbytes : ["logs", "d.json"] ∉ gone := by
    intro hmem
    obtain ⟨name, t, r, hname, -, hread, -, -⟩ := (hgone _).mp hmem
    obtain rfl : "d.json" = name := by simpa using congrArg List.getLast? hname
    have hnone : (d.readText ["logs", "d.json"]).toOption = none := by decide +kernel
    rw [show d.readText ["logs", "d.json"] = .ok t from hread] at hnone
    cases hnone
  refine ⟨hdir, hnames, gone.length, d', hprune, hagain, ?_, ?_, ?_, ?_⟩
  · rw [hentry, if_pos (hold "a.json" (by decide +kernel) rfl (by decide))]
  · rw [hentry, if_pos (hold "b.json" (by decide +kernel) rfl (by decide))]
  · rw [hentry, if_neg hnew]
    rfl
  · rw [hentry, if_neg hbytes]
    rfl

end Log

end Scaffold
