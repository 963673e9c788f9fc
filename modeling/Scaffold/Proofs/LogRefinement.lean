import Mathlib.Data.List.Perm.Basic
import Scaffold.Proofs.LogBook

/-!
# The store refines the book

The directory of a store and the book of its records go through the operations side by side: each
operation gives the same answer on both, and leaves a directory that keeps the book that it leaves.
So whatever was asked of a store, its listing and its look-ups are those of the book.
-/

namespace Scaffold.Log

open Document Schema

/-- A store whose directory is there and holds the files of a book and nothing else. -/
structure Store.Keeps (s : Store) (d : Disk) (m : Book) : Prop where
  leads : d.LeadsToDirectory s.directory
  files : d.children s.directory.location = m.map fileEntry
  proper : m.IsProper
  short : s.directory.text.utf8ByteSize + 18 ≤ Disk.maxPathSize

/-- A store whose directory is missing and can be made, with nothing in it, at a path that leaves
room for the name of a file. -/
structure Store.IsFresh (s : Store) (d : Disk) : Prop where
  missing : d.entry? s.directory.location = none
  made : (d.makeDirectories s.directory).1 = .ok ()
  empty : (d.makeDirectories s.directory).2.children s.directory.location = []
  short : s.directory.text.utf8ByteSize + 18 ≤ Disk.maxPathSize

/-- A store is fresh when nothing stands below its directory, unless the path of the directory goes
up. -/
lemma Store.isFresh_of_not_mem {s : Store} {d : Disk} (hup : ".." ∉ s.directory.names)
    (hmissing : d.entry? s.directory.location = none)
    (hmade : (d.makeDirectories s.directory).1 = .ok ())
    (hempty : d.children s.directory.location = [])
    (hshort : s.directory.text.utf8ByteSize + 18 ≤ Disk.maxPathSize) : s.IsFresh d where
  missing := hmissing
  made := hmade
  empty := Disk.children_makeDirectories hup hempty
  short := hshort

/-- A store that keeps a book, or one that is fresh and keeps nothing. -/
def Store.Holds (s : Store) (d : Disk) (m : Book) : Prop := s.Keeps d m ∨ (s.IsFresh d ∧ m = [])

/-- What there is to return for a hash: the record under it if it is legible, and the refusal of its
file if it is not. -/
def Store.returned (s : Store) (m : Book) (hash : String) : Except Failure (Option Record) :=
  match Table.find? m hash with
  | none => .ok none
  | some r =>
    if r.isLegible then .ok (some r)
    else .error (.log (s.pathOf hash) (.invalid [⟨.unreadable, []⟩]))

/-- The disk without a file that was found, if it can be removed. -/
def Store.withoutFound (s : Store) (d : Disk) (f : Found) : Disk :=
  match d.removeFile (s.directory.child f.name) with
  | .ok d => d
  | .error _ => d

section Path

variable {s : Store} {hash : String}

lemma utf8ByteSize_pathOf_le (hshort : s.directory.text.utf8ByteSize + 18 ≤ Disk.maxPathSize)
    (h : IsGenerated hash) : (s.pathOf hash).text.utf8ByteSize ≤ Disk.maxPathSize := by
  rw [pathOf_eq s h.hexDigit]
  refine (Disk.utf8ByteSize_text_child _ _).trans ?_
  rw [h.utf8ByteSize_eq]
  exact hshort

end Path

namespace Store.Keeps

variable {s : Store} {d : Disk} {m : Book} {hash : String} (h : s.Keeps d m)

include h

lemma locate_pathOf (hhash : IsGenerated hash) :
    d.locate (s.pathOf hash) = .ok (s.directory.location ++ [hash ++ ".json"]) := by
  have hsize := utf8ByteSize_pathOf_le h.short hhash
  rw [pathOf_eq s hhash.hexDigit] at hsize ⊢
  exact Disk.locate_child h.leads hhash.isName hsize

lemma entry?_pathOf (hash : String) :
    d.entry? (s.directory.location ++ [hash ++ ".json"]) =
      (Table.find? m hash).map fun r => .file (Text.Utf8.encode (Store.fileText r)) := by
  rw [Disk.entry?_child, h.files, find?_map_fileEntry]

/-- What is read from the file of a record. -/
lemma readFile_pathOf {r : Record} (hhash : IsGenerated hash)
    (hr : Table.find? m hash = some r) :
    readFile (s.pathOf hash) d =
      if r.isLegible then .ok r
      else .error (.log (s.pathOf hash) (.invalid [⟨.unreadable, []⟩])) := by
  have hread : d.readText (s.pathOf hash) = .ok (Text.unifyLineEnds (Store.fileText r)) := by
    rw [Disk.readText, Disk.readFile, Disk.lookup, h.locate_pathOf hhash]
    simp only [h.entry?_pathOf, hr, Option.map_some, Text.Utf8.decode_encode]
  obtain ⟨hmade, -⟩ := h.proper.made _ (Table.mem_of_find? hr)
  rw [readFile, hread]
  simp only [hmade.readRecord_fileText]
  cases r.isLegible with
  | true => rfl
  | false => rfl

lemma isFile_pathOf (hhash : IsGenerated hash) :
    d.isFile (s.pathOf hash) = .ok (Table.find? m hash).isSome := by
  rw [Disk.isFile, Disk.find?, Disk.lookup, h.locate_pathOf hhash]
  simp only [h.entry?_pathOf]
  cases Table.find? m hash with
  | none => rfl
  | some r => rfl

/-- A store returns what the book holds. -/
lemma get_eq (hhash : IsGenerated hash) : s.get hash d = s.returned m hash := by
  rw [get, hhash.isHash, returned]
  simp only [Bool.not_true, Bool.false_eq_true, if_false, h.isFile_pathOf hhash]
  cases hr : Table.find? m hash with
  | none => rfl
  | some r =>
    simp only [Option.isSome_some, h.readFile_pathOf hhash hr]
    split
    · rfl
    · rfl

/-! ### Listings -/

/-- The files of the directory that hold a record are those of the legible records. -/
lemma readable_perm :
    (s.readable s.directory.location d).Perm
      ((m.filter fun pair => pair.2.isLegible).map foundOf) := by
  have hnames : (d.names s.directory.location).filter isLogName =
      m.map fun pair => pair.1 ++ ".json" := by
    rw [Disk.names_eq, h.files, List.map_map, List.filter_eq_self.mpr]
    · rfl
    · intro name hname
      obtain ⟨pair, -, rfl⟩ := List.mem_map.mp hname
      simp [isLogName, fileEntry, String.toList_append]
  rw [Store.readable, hnames]
  refine ((List.mergeSort_perm _ _).filterMap _).trans (List.Perm.of_eq ?_)
  rw [List.filterMap_map, ← List.filterMap_eq_map, List.filterMap_filter]
  refine List.filterMap_congr fun pair hpair => ?_
  have hgenerated := h.proper.isGenerated hpair
  have hread := h.readFile_pathOf hgenerated (h.proper.find?_of_mem hpair)
  rw [pathOf_eq s hgenerated.hexDigit] at hread
  simp only [Function.comp_apply, hread]
  cases pair.2.isLegible with
  | true => rfl
  | false => rfl

/-- A listing has the legible records, the newest first. -/
lemma scan_eq : ∃ found, s.scan d = .ok found ∧
    found.Perm
      ((m.filter fun pair => pair.2.isLegible).map foundOf) ∧
    found.Pairwise fun a b => b.record.timestamp ≤ a.record.timestamp := by
  rw [scan, h.leads.isDirectory, h.leads.located]
  exact ⟨_, rfl, (List.mergeSort_perm _ _).trans h.readable_perm, newestFirst_mergeSort _⟩

/-! ### Changes -/

lemma entry?_pathOf_ne (hash : String) :
    d.entry? (s.directory.location ++ [hash ++ ".json"]) ≠ some .directory := by
  rw [h.entry?_pathOf]
  cases Table.find? m hash with
  | none => rintro ⟨⟩
  | some r => rintro ⟨⟩

lemma writeText_pathOf (hhash : IsGenerated hash) (t : List Char) :
    d.writeText (s.pathOf hash) t =
      .ok (d.put (s.directory.location ++ [hash ++ ".json"]) (.file (Text.Utf8.encode t))) := by
  have hentry := h.entry?_pathOf_ne hash
  rw [Disk.writeText, Disk.writeFile, h.locate_pathOf hhash]
  -- the case of a directory is excluded by `hentry`
  simp only

/-- Saving a record puts it into the book. -/
lemma save {r : Record} (hr : r.IsMade) :
    ∃ d', s.save r d = (.ok (s.pathOf r.hash), d') ∧ s.Keeps d' (Table.insert m r.hash r) := by
  obtain ⟨i, hi, -⟩ := hr.exists_eq
  have hshallow : r.isShallow = true := by
    rw [Record.isShallow, hi]
    exact decide_eq_true (i.depth_snapshot_le.trans (by decide))
  refine ⟨_, ?_, h.leads.put (h.entry?_pathOf_ne r.hash) (.file (Text.Utf8.encode (fileText r))),
    ?_, h.proper.insert hr, h.short⟩
  · rw [Store.save, h.leads.makeDirectories]
    simp only [hshallow, Bool.not_true, Bool.false_eq_true, if_false,
      h.writeText_pathOf hr.isGenerated]
  · rw [Disk.children_put, h.files, insert_map_fileEntry]

/-- Removing the file of a hash takes the hash out of the book. -/
lemma withoutFound (hhash : IsGenerated hash) (r : Record) :
    s.Keeps (s.withoutFound d ⟨hash ++ ".json", r⟩) (m.filter fun pair => pair.1 ≠ hash) := by
  have hlocate := h.locate_pathOf hhash
  have hentry := h.entry?_pathOf hash
  have hname : (s.directory.child (hash ++ ".json")).endsUpward = false := by
    rw [Bool.eq_false_iff]
    exact mt Path.endsUpward_child_iff.mp hhash.isName.noParent
  rw [pathOf_eq s hhash.hexDigit] at hlocate
  rw [Store.withoutFound, Disk.removeFile, hlocate]
  simp only [hname, Bool.false_eq_true, if_false, hentry]
  cases hr : Table.find? m hash with
  | none =>
    have hall : ∀ pair ∈ m, pair.1 ≠ hash := by
      rintro pair hpair rfl
      rw [h.proper.find?_of_mem hpair] at hr
      cases hr
    rw [List.filter_eq_self.mpr fun pair hpair => decide_eq_true (hall pair hpair)]
    exact h
  | some r =>
    simp only [Option.map_some]
    refine ⟨h.leads.without (h.entry?_pathOf_ne hash), ?_, h.proper.filter _, h.short⟩
    rw [Disk.children_without, h.files, filter_map_fileEntry]

/-- Removing files of hashes one after the other takes these hashes out of the book. -/
lemma foldl_withoutFound (found : List Found)
    (hfound : ∀ f ∈ found, ∃ hash, IsGenerated hash ∧ f.name = hash ++ ".json") :
    s.Keeps (found.foldl s.withoutFound d)
      (m.filter fun pair => found.all fun f => f.name ≠ pair.1 ++ ".json") := by
  induction found generalizing d m with
  | nil => simpa using h
  | cons f rest ih =>
    obtain ⟨⟨hash, hhash, hname⟩, hrest⟩ := List.forall_mem_cons.mp hfound
    obtain ⟨name, r⟩ := f
    obtain rfl : name = hash ++ ".json" := hname
    have hkeeps := ih (h.withoutFound hhash r) hrest
    have hkept : ∀ pair ∈ m,
        ((⟨hash ++ ".json", r⟩ :: rest : List Found).all fun f => f.name ≠ pair.1 ++ ".json") =
        ((rest.all fun f => f.name ≠ pair.1 ++ ".json") && decide (pair.1 ≠ hash)) := by
      intro pair _
      rw [List.all_cons, Bool.and_comm]
      simp [eq_comm]
    rw [List.filter_filter, ← List.filter_congr hkept] at hkeeps
    exact hkeeps

/-- Pruning takes the legible records that are too old out of the book, and counts them. -/
lemma prune (days now : Int) :
    ∃ d', s.prune days now d =
        (.ok (m.countP fun pair => Book.isExpired Record.isLegible days now pair.2), d') ∧
      s.Keeps d' (m.filter fun pair => !Book.isExpired Record.isLegible days now pair.2) := by
  obtain ⟨found, hscan, hperm, -⟩ := h.scan_eq
  have hold := Book.perm_old days now hperm
  have hnames : ∀ f ∈ found.filter fun f => f.record.timestamp < cutoff days now,
      ∃ hash, IsGenerated hash ∧ f.name = hash ++ ".json" := by
    intro f hf
    obtain ⟨pair, hpair, rfl⟩ := List.mem_map.mp (hold.mem_iff.mp hf)
    exact ⟨pair.1, h.proper.isGenerated (List.mem_of_mem_filter hpair), rfl⟩
  have hcount : (found.filter fun f => f.record.timestamp < cutoff days now).length =
      m.countP fun pair => Book.isExpired Record.isLegible days now pair.2 := by
    rw [hold.length_eq, List.length_map, List.countP_eq_length_filter]
  have hkept : ∀ pair ∈ m,
      ((found.filter fun f => f.record.timestamp < cutoff days now).all
        fun f => f.name ≠ pair.1 ++ ".json") =
      !Book.isExpired Record.isLegible days now pair.2 := by
    intro pair hpair
    rw [hold.all_eq]
    exact h.proper.all_name_ne _ hpair
  have hkeeps := h.foldl_withoutFound _ hnames
  rw [List.filter_congr hkept] at hkeeps
  refine ⟨_, ?_, hkeeps⟩
  rw [Store.prune, hscan]
  simp only [hcount]
  rfl

end Store.Keeps

/-! ### A store that is fresh -/

namespace Store.IsFresh

variable {s : Store} {d : Disk} {hash : String} (h : s.IsFresh d)

include h

/-- The directory of a fresh store, once it is made, keeps nothing. -/
lemma keeps : s.Keeps (d.makeDirectories s.directory).2 [] where
  leads := Disk.leadsToDirectory_of_makeDirectories (Prod.ext h.made rfl)
  files := h.empty
  proper := ⟨List.nodup_nil, fun _ hpair => absurd hpair List.not_mem_nil⟩
  short := h.short

lemma hasShortNames : Disk.HasShortNames s.directory.names :=
  let ⟨_, _, hwalk⟩ := Disk.locate_eq_ok_iff.mp h.keeps.leads.located
  Disk.hasShortNames_of_walk hwalk

lemma isDirectory_eq : d.isDirectory s.directory = .ok false := by
  have hsize : s.directory.text.utf8ByteSize ≤ Disk.maxPathSize := by
    have hshort := h.short
    omega
  rw [Disk.isDirectory, Disk.find?_eq_none h.hasShortNames hsize h.missing]
  rfl

lemma isFile_pathOf (hhash : IsGenerated hash) : d.isFile (s.pathOf hash) = .ok false := by
  have hnames : Disk.HasShortNames (s.pathOf hash).names := by
    rw [pathOf_eq s hhash.hexDigit]
    intro name hname
    rcases List.mem_append.mp hname with hdirectory | hlast
    · exact h.hasShortNames name hdirectory
    · rw [List.mem_singleton.mp hlast]
      exact .inr hhash.isName.short
  have hmissing : d.entry? (s.pathOf hash).location = none := by
    rw [pathOf_eq s hhash.hexDigit, Disk.location_child_of_ne _ hhash.isName.noParent]
    by_contra hsome
    obtain ⟨e, he⟩ := Option.ne_none_iff_exists'.mp hsome
    have hmade := (Disk.grows_makeDirectories d s.directory).entry?_eq_of_some he
    rw [h.keeps.entry?_pathOf] at hmade
    cases hmade
  rw [Disk.isFile, Disk.find?_eq_none hnames (utf8ByteSize_pathOf_le h.short hhash) hmissing]
  rfl

lemma get_eq (hhash : IsGenerated hash) : s.get hash d = .ok none := by
  rw [get, hhash.isHash, h.isFile_pathOf hhash]
  rfl

lemma scan_eq : s.scan d = .ok [] := by
  rw [scan, h.isDirectory_eq]

lemma prune_eq (days now : Int) : s.prune days now d = (.ok 0, d) := by
  rw [prune, h.scan_eq]
  rfl

/-- The first record is saved as if the directory had been there. -/
lemma save_eq (r : Record) : s.save r d = s.save r (d.makeDirectories s.directory).2 := by
  have hmake : d.makeDirectories s.directory = (.ok (), (d.makeDirectories s.directory).2) :=
    Prod.ext h.made rfl
  rw [save, save, h.keeps.leads.makeDirectories]
  rw [hmake]

end Store.IsFresh

/-! ### Rows of operations -/

/-- Does what is asked of a store, and gives the answer. -/
def Store.perform (s : Store) (d : Disk) : Book.Operation → Except Failure (Option Nat) × Disk
  | .save r =>
    match s.save r d with
    | (.error e, d) => (.error e, d)
    | (.ok _, d) => (.ok none, d)
  | .prune days now =>
    match s.prune days now d with
    | (.error e, d) => (.error e, d)
    | (.ok count, d) => (.ok (some count), d)

/-- Does what is asked of a store, one operation after the other, up to one that fails. -/
def Store.run (s : Store) (d : Disk) :
    List Book.Operation → Except Failure (List (Option Nat)) × Disk
  | [] => (.ok [], d)
  | o :: rest =>
    match s.perform d o with
    | (.error e, d) => (.error e, d)
    | (.ok answer, d) =>
      match s.run d rest with
      | (.error e, d) => (.error e, d)
      | (.ok answers, d) => (.ok (answer :: answers), d)

namespace Store.Holds

variable {s : Store} {d : Disk} {m : Book}

lemma get_eq (h : s.Holds d m) {hash : String} (hhash : IsGenerated hash) :
    s.get hash d = s.returned m hash := by
  rcases h with hkeeps | ⟨hfresh, rfl⟩
  · exact hkeeps.get_eq hhash
  · rw [hfresh.get_eq hhash]
    rfl

lemma isProper (h : s.Holds d m) : m.IsProper := by
  rcases h with hkeeps | ⟨-, rfl⟩
  · exact hkeeps.proper
  · exact ⟨List.nodup_nil, fun _ hpair => absurd hpair List.not_mem_nil⟩

lemma records_eq (h : s.Holds d m) : ∃ rs, s.records d = .ok rs ∧
    rs.Perm ((m.map Prod.snd).filter Record.isLegible) ∧
    rs.Pairwise fun a b => b.timestamp ≤ a.timestamp := by
  rcases h with hkeeps | ⟨hfresh, rfl⟩
  · obtain ⟨found, hscan, hperm, hsorted⟩ := hkeeps.scan_eq
    refine ⟨found.map Found.record, ?_, ?_, List.pairwise_map.mpr hsorted⟩
    · rw [records, hscan]
      rfl
    · have hrecord : Found.record ∘ foundOf = Prod.snd := rfl
      have hrecords := hperm.map Found.record
      rw [List.map_map, hrecord] at hrecords
      rwa [List.filter_map, Function.comp_def]
  · refine ⟨[], ?_, List.Perm.nil, List.Pairwise.nil⟩
    rw [records, hfresh.scan_eq]
    rfl

/-- One operation gives the answer of the book, and leaves what the book has become. -/
theorem perform (h : s.Holds d m) {o : Book.Operation} (ho : ∀ r, o = .save r → r.IsMade) :
    ∃ d', s.perform d o = (.ok (m.answer Record.isLegible o), d') ∧
      s.Holds d' (m.after Record.isLegible o) := by
  cases o with
  | save r =>
    have hsave : ∃ d', s.save r d = (.ok (s.pathOf r.hash), d') ∧
        s.Keeps d' (Table.insert m r.hash r) := by
      rcases h with hkeeps | ⟨hfresh, rfl⟩
      · exact hkeeps.save (ho r rfl)
      · rw [hfresh.save_eq]
        exact hfresh.keeps.save (ho r rfl)
    obtain ⟨d', hd', hkeeps⟩ := hsave
    refine ⟨d', ?_, .inl hkeeps⟩
    rw [Store.perform, hd']
    rfl
  | prune days now =>
    rcases h with hkeeps | ⟨hfresh, rfl⟩
    · obtain ⟨d', hd', hkeeps'⟩ := hkeeps.prune days now
      refine ⟨d', ?_, .inl hkeeps'⟩
      rw [Store.perform, hd', Book.answer]
    · refine ⟨d, ?_, .inr ⟨hfresh, rfl⟩⟩
      rw [Store.perform, hfresh.prune_eq]
      rfl

/-- A row of operations gives the answers of the book, and leaves what the book has become. -/
theorem run (h : s.Holds d m) {operations : List Book.Operation}
    (ho : ∀ r, .save r ∈ operations → r.IsMade) :
    ∃ d', s.run d operations = (.ok (m.run Record.isLegible operations).1, d') ∧
      s.Holds d' (m.run Record.isLegible operations).2 := by
  induction operations generalizing d m with
  | nil => exact ⟨d, rfl, h⟩
  | cons o rest ih =>
    have hfirst : ∀ r, o = .save r → r.IsMade := by
      rintro r rfl
      exact ho r List.mem_cons_self
    obtain ⟨d₁, hd₁, hafter⟩ := h.perform hfirst
    obtain ⟨d₂, hd₂, hrest⟩ := ih hafter fun r hr => ho r (.tail _ hr)
    refine ⟨d₂, ?_, hrest⟩
    rw [Store.run, hd₁]
    simp only [hd₂, Book.run]

end Store.Holds

/-! ### Refinement -/

/-- A store that shows a book from outside: it returns the record under each hash, and lists each
record once, the newest first, and returns each record that it lists. -/
structure Store.Shows (s : Store) (d : Disk) (m : Book) : Prop where
  get_eq : ∀ hash, IsGenerated hash → s.get hash d = .ok (Table.find? m hash)
  listed : ∃ rs, s.records d = .ok rs ∧ rs.Perm (m.map Prod.snd) ∧
    rs.Pairwise (fun a b => b.timestamp ≤ a.timestamp) ∧ ∀ r ∈ rs, s.get r.hash d = .ok (some r)

/-- A store that gives the answers of the book to a row of operations, when they begin with nothing,
and shows the book after them. -/
def Store.Refines (s : Store) (d : Disk) (operations : List Book.Operation) : Prop :=
  ∃ d', s.run d operations = (.ok (Book.run [] (fun _ => true) operations).1, d') ∧
    s.Shows d' (Book.run [] (fun _ => true) operations).2

variable {s : Store} {d : Disk} {operations : List Book.Operation}

/-- A store shows a book that it holds if all records of the book are legible. -/
lemma Store.Holds.shows {m : Book} (h : s.Holds d m)
    (hlegible : ∀ pair ∈ m, pair.2.isLegible = true) : s.Shows d m := by
  have hget : ∀ hash, IsGenerated hash → s.get hash d = .ok (Table.find? m hash) := by
    intro hash hhash
    rw [h.get_eq hhash, Store.returned]
    cases hr : Table.find? m hash with
    | none => rfl
    | some r => simp only [hlegible _ (Table.mem_of_find? hr), if_true]
  obtain ⟨rs, hrecords, hperm, hsorted⟩ := h.records_eq
  rw [List.filter_eq_self.mpr] at hperm
  · refine ⟨hget, rs, hrecords, hperm, hsorted, fun r hr => ?_⟩
    obtain ⟨pair, hpair, rfl⟩ := List.mem_map.mp (hperm.mem_iff.mp hr)
    have hhash := (h.isProper.made pair hpair).2
    rw [hhash, hget _ (h.isProper.isGenerated hpair), h.isProper.find?_of_mem hpair]
  · intro r hr
    obtain ⟨pair, hpair, rfl⟩ := List.mem_map.mp hr
    exact hlegible pair hpair

/-- A store that is fresh does not refine the book when a record that is not legible is saved last:
the record is there, and is not returned. -/
lemma Store.IsFresh.isLegible_of_refines (h : s.IsFresh d) (row : List Book.Operation)
    {r : Record} (hmade : ∀ r', .save r' ∈ row ++ [.save r] → r'.IsMade)
    (hrefines : s.Refines d (row ++ [.save r])) : r.isLegible = true := by
  obtain ⟨d', hrun, hholds⟩ := Store.Holds.run (.inr ⟨h, rfl⟩) hmade
  obtain ⟨d'', hrun', hshows⟩ := hrefines
  obtain rfl : d' = d'' := by
    rw [hrun] at hrun'
    exact congrArg Prod.snd hrun'
  have hgenerated : IsGenerated r.hash :=
    hholds.isProper.isGenerated (Table.mem_of_find? (Book.find?_run_concat_save _ row r))
  have hget := hshows.get_eq r.hash hgenerated
  rw [hholds.get_eq hgenerated, Store.returned, Book.find?_run_concat_save] at hget
  cases hlegible : r.isLegible with
  | true => rfl
  | false => simp [hlegible] at hget

/-- A store that is fresh refines the book along the whole of a row of operations exactly if all the
records saved are legible. -/
theorem Store.refines_iff_isLegible (hfresh : s.IsFresh d)
    (hmade : ∀ r, .save r ∈ operations → r.IsMade) :
    (∀ row, row <+: operations → s.Refines d row) ↔
      ∀ r, .save r ∈ operations → r.isLegible = true := by
  constructor
  · intro hrefines r hr
    obtain ⟨row, rest, rfl⟩ := List.append_of_mem hr
    have hrow : row ++ [.save r] <+: row ++ .save r :: rest := ⟨rest, by simp⟩
    exact hfresh.isLegible_of_refines row (fun r' hr' => hmade r' (hrow.subset hr'))
      (hrefines _ hrow)
  · intro hlegible row hrow
    have hmade' : ∀ r, .save r ∈ row → r.IsMade := fun r hr => hmade r (hrow.subset hr)
    have hlegible' : ∀ r, .save r ∈ row → r.isLegible = true := fun r hr =>
      hlegible r (hrow.subset hr)
    obtain ⟨d', hrun, hholds⟩ := Store.Holds.run (.inr ⟨hfresh, rfl⟩) hmade'
    -- an observer who sees the legible records only sees them all
    have hsame : Book.run [] Record.isLegible row = Book.run [] (fun _ => true) row :=
      Book.run_congr (fun pair hpair => absurd hpair List.not_mem_nil) hlegible'
    rw [hsame] at hrun hholds
    refine ⟨d', hrun, hholds.shows ?_⟩
    exact Book.forall_mem_run _ (fun pair hpair => absurd hpair List.not_mem_nil) hlegible'

/-! ### A count in a guard -/

/-- The record of a deletion whose guard has a condition with the given count. -/
def Record.ofCount (count timestamp : Int) : Record where
  hash := hashOf "shop" "auth" 0 timestamp
  timestamp := timestamp
  project := "shop"
  module := "auth"
  index := 0
  instruction := Instruction.snapshot
    ⟨"a.txt", .deleteFile, none, none, none, none, none, none,
      some ⟨[⟨.moduleNotExists, some "other", none, some count, none⟩], .all⟩⟩
  status := .success
  error := none
  conditions := some [⟨true, "module 'other' is not selected"⟩]

lemma Record.isMade_ofCount (count timestamp : Int) : (ofCount count timestamp).IsMade :=
  ⟨"shop", "auth", 0, _, .success, none, some [⟨true, "module 'other' is not selected"⟩], timestamp,
    rfl⟩

lemma Record.isLegible_ofCount (count timestamp : Int) :
    (ofCount count timestamp).isLegible = (Json.isShort timestamp && Json.isShort count) := by
  have hindex : Json.isShort 0 = true := by decide +kernel
  rw [isLegible, ofCount, Instruction.hasShortIntegers_snapshot]
  simp [hindex]

lemma Store.isFresh_empty : (⟨["logs"]⟩ : Store).IsFresh Disk.empty :=
  isFresh_of_not_mem (by decide) (by decide) (by decide +kernel) rfl (by decide +kernel)

/-- Three records, one of which is pruned before the last is saved. -/
theorem Store.refines_of_three :
    (⟨["logs"]⟩ : Store).Refines Disk.empty
      [.save (.ofCount 1 1000), .save (.ofCount 2 2000), .prune 0 2000,
        .save (.ofCount 3 1000)] := by
  have hsaved : ∀ r, .save r ∈ [Book.Operation.save (.ofCount 1 1000), .save (.ofCount 2 2000),
      .prune 0 2000, .save (.ofCount 3 1000)] →
      r = .ofCount 1 1000 ∨ r = .ofCount 2 2000 ∨ r = .ofCount 3 1000 := by
    intro r hr
    simpa using hr
  refine (Store.refines_iff_isLegible Store.isFresh_empty fun r hr => ?_).mpr (fun r hr => ?_) _
    (List.prefix_refl _)
  · rcases hsaved r hr with rfl | rfl | rfl <;> exact Record.isMade_ofCount _ _
  · rcases hsaved r hr with rfl | rfl | rfl <;>
      (rw [Record.isLegible_ofCount]; decide +kernel)

/-- The record of an attempt whose guard has an integer of 4301 digits is not returned when it has
been saved. -/
theorem Store.not_refines :
    (⟨["logs"]⟩ : Store).IsFresh Disk.empty ∧
      (Record.ofCount (Number.tenTo Text.maxDigits) 1000).IsMade ∧
      ¬ (⟨["logs"]⟩ : Store).Refines Disk.empty
        [.save (.ofCount (Number.tenTo Text.maxDigits) 1000)] := by
  refine ⟨isFresh_empty, Record.isMade_ofCount _ _, fun hrefines => ?_⟩
  have hmade : ∀ r, .save r ∈ [Book.Operation.save (.ofCount (Number.tenTo Text.maxDigits) 1000)] →
      r.IsMade := by
    intro r hr
    obtain rfl := Book.Operation.save.inj (List.mem_singleton.mp hr)
    exact Record.isMade_ofCount _ _
  have hlegible := Store.isFresh_empty.isLegible_of_refines [] hmade hrefines
  have hlong : Json.isShort (Number.tenTo Text.maxDigits) = false := by decide +kernel
  rw [Record.isLegible_ofCount, hlong, Bool.and_false] at hlegible
  cases hlegible

end Scaffold.Log
