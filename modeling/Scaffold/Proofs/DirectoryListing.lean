import Scaffold.Proofs.DiskEntries

/-!
# A directory and what stands in it

A directory as the table of its names. Writing and removing a file in a directory that is there
puts a name into the table and takes it out, and what a path leads to below the directory is what
the table holds. A directory that could be made is there, and is not made again.
-/

namespace Scaffold

namespace Disk

variable {d d' : Disk} {p : Path} {names : List String} {l : Location} {name : String}

/-! ### Names in a directory -/

/-- What stands in a directory, by name. -/
def children (d : Disk) (l : Location) : Table String Entry :=
  d.entries.filterMap fun pair =>
    if pair.1.dropLast = l then pair.1.getLast?.map fun name => (name, pair.2) else none

lemma names_eq (d : Disk) (l : Location) : d.names l = (d.children l).map Prod.fst := by
  rw [names, children, List.map_filterMap]
  congr 1
  funext pair
  split
  · rw [Option.map_map]
    exact Option.map_id'.symm
  · rfl

@[simp] lemma children_cons_child (name : String) (e : Entry) (rest : Table Location Entry)
    (l : Location) :
    children ⟨(l ++ [name], e) :: rest⟩ l = (name, e) :: children ⟨rest⟩ l := by
  simp [children]

lemma children_cons_of_ne {key : Location} (h : ∀ name, key ≠ l ++ [name]) (e : Entry)
    (rest : Table Location Entry) : children ⟨(key, e) :: rest⟩ l = children ⟨rest⟩ l := by
  have hnone : (if key.dropLast = l then key.getLast?.map fun name => (name, e) else none) =
      none := by
    split
    · next hl =>
      cases hlast : key.getLast? with
      | none => rfl
      | some name =>
        subst hl
        exact absurd (List.dropLast_append_getLast? name hlast).symm (h name)
    · rfl
  simp only [children, List.filterMap_cons, hnone]

lemma entry?_child (d : Disk) (l : Location) (name : String) :
    d.entry? (l ++ [name]) = Table.find? (d.children l) name := by
  obtain ⟨entries⟩ := d
  rw [Disk.entry?, if_neg (by simp)]
  induction entries with
  | nil => rfl
  | cons pair rest ih =>
    obtain ⟨key, e⟩ := pair
    by_cases hchild : ∃ name', key = l ++ [name']
    · obtain ⟨name', rfl⟩ := hchild
      simp only at ih ⊢
      rw [children_cons_child, Table.find?, Table.find?, ih]
      simp
    · have hne : ∀ name', key ≠ l ++ [name'] := fun name' hkey => hchild ⟨name', hkey⟩
      simp only at ih ⊢
      rw [children_cons_of_ne hne, ← ih, Table.find?, if_neg (by simpa using hne name)]

lemma children_put (d : Disk) (l : Location) (name : String) (e : Entry) :
    (d.put (l ++ [name]) e).children l = Table.insert (d.children l) name e := by
  obtain ⟨entries⟩ := d
  rw [put]
  induction entries with
  | nil => simp [children, Table.insert]
  | cons pair rest ih =>
    obtain ⟨key, e'⟩ := pair
    simp only at ih ⊢
    by_cases hkey : key = l ++ [name]
    · subst hkey
      simp [Table.insert]
    · rw [Table.insert, if_neg (by simpa using hkey)]
      by_cases hchild : ∃ name', key = l ++ [name']
      · obtain ⟨name', rfl⟩ := hchild
        have hname : name' ≠ name := fun heq => hkey (heq ▸ rfl)
        rw [children_cons_child, children_cons_child, Table.insert, if_neg (by simpa using hname),
          ih]
      · have hne : ∀ name', key ≠ l ++ [name'] := fun name' hkey => hchild ⟨name', hkey⟩
        rw [children_cons_of_ne hne, children_cons_of_ne hne, ih]

lemma children_without (d : Disk) (l : Location) (name : String) :
    (d.without (· = l ++ [name])).children l =
      (d.children l).filter fun pair => pair.1 ≠ name := by
  obtain ⟨entries⟩ := d
  rw [without]
  induction entries with
  | nil => rfl
  | cons pair rest ih =>
    obtain ⟨key, e⟩ := pair
    simp only at ih ⊢
    by_cases hkey : key = l ++ [name]
    · subst hkey
      rw [List.filter_cons_of_neg (by simp), children_cons_child,
        List.filter_cons_of_neg (by simp), ih]
    · rw [List.filter_cons_of_pos (by simpa using hkey)]
      by_cases hchild : ∃ name', key = l ++ [name']
      · obtain ⟨name', rfl⟩ := hchild
        have hname : name' ≠ name := fun heq => hkey (heq ▸ rfl)
        rw [children_cons_child, children_cons_child,
          List.filter_cons_of_pos (by simpa using hname), ih]
      · have hne : ∀ name', key ≠ l ++ [name'] := fun name' hkey => hchild ⟨name', hkey⟩
        rw [children_cons_of_ne hne, children_cons_of_ne hne, ih]

/-! ### Where a path leads -/

/-- A path that leads to a directory. -/
structure LeadsToDirectory (d : Disk) (p : Path) : Prop where
  located : d.locate p = .ok p.location
  there : d.entry? p.location = some .directory

lemma walk_append {l' : Location} (h : d.walk l names = .ok l')
    (hdir : d.entry? l' = some .directory) :
    d.walk l (names ++ [name]) = d.walk l' [name] := by
  induction names generalizing l with
  | nil =>
    obtain rfl := Except.ok.inj h
    rfl
  | cons first rest ih =>
    rcases walk_cons_eq_ok_iff.mp h with ⟨hup, h⟩ | ⟨hup, hsize, hthere, h⟩
    · rw [hup, List.cons_append, walk_up]
      exact ih h
    · have hfirst : d.entry? (l ++ [first]) = some .directory := by
        cases rest with
        | nil =>
          obtain rfl := Except.ok.inj h
          exact hdir
        | cons next more => exact hthere (List.cons_ne_nil next more)
      rw [List.cons_append, walk_into hup hsize fun _ => hfirst]
      exact ih h

/-- A name that can be the last one of a path. -/
structure IsName (name : String) : Prop where
  noParent : name ≠ ".."
  noNull : name.toList.contains '\x00' = false
  short : name.utf8ByteSize ≤ maxNameSize

lemma locate_eq_ok_iff :
    d.locate p = .ok l ↔
      hasNull p = false ∧ p.text.utf8ByteSize ≤ maxPathSize ∧ d.walk [] p.names = .ok l := by
  rw [locate]
  cases hasNull p with
  | true => simp
  | false =>
    rw [if_neg Bool.false_ne_true, ← not_lt]
    by_cases hsize : maxPathSize < p.text.utf8ByteSize
    · simp [hsize]
    · cases hwalk : d.walk [] p.names <;> simp [hsize]

lemma location_child_of_ne (p : Path) {name : String} (h : name ≠ "..") :
    (p.child name).location = p.location ++ [name] := by
  rw [Path.location_child, if_neg h]

/-- A path into a directory that is there leads to the place of the name. -/
lemma locate_child (h : d.LeadsToDirectory p) (hname : IsName name)
    (hsize : (p.child name).text.utf8ByteSize ≤ maxPathSize) :
    d.locate (p.child name) = .ok (p.location ++ [name]) := by
  obtain ⟨hnull, -, hwalk⟩ := locate_eq_ok_iff.mp h.located
  refine locate_eq_ok_iff.mpr ⟨?_, hsize, ?_⟩
  · rw [hasNull_child, hnull, hname.noNull, Bool.or_false]
  · rw [Path.child, walk_append hwalk h.there]
    exact walk_into hname.noParent hname.short fun hrest => absurd rfl hrest

/-- A directory that is there has no place for a name that is too long. -/
lemma tooLong_child (h : d.LeadsToDirectory p) (hnull : '\x00' ∉ name.toList)
    (hsize : maxNameSize < name.utf8ByteSize) : d.TooLong (p.child name) := by
  obtain ⟨hpath, -, hwalk⟩ := locate_eq_ok_iff.mp h.located
  have hup : name ≠ ".." := by
    rintro rfl
    exact absurd hsize (by decide)
  refine ⟨?_, .inr ?_⟩
  · rw [hasNull_child, hpath]
    simpa using hnull
  · rw [Path.child, walk_append hwalk h.there, walk.eq_def]
    simp only [if_neg hup, if_pos hsize]

lemma utf8ByteSize_intercalate_append (hne : names ≠ []) (name : String) :
    ("/".intercalate (names ++ [name])).utf8ByteSize =
      ("/".intercalate names).utf8ByteSize + 1 + name.utf8ByteSize := by
  have hslash : "/".utf8ByteSize = 1 := by decide
  induction names with
  | nil => exact absurd rfl hne
  | cons first rest ih =>
    cases rest with
    | nil =>
      simp [String.intercalate_cons_cons, String.utf8ByteSize_append, hslash]
    | cons next more =>
      rw [List.cons_append, String.intercalate_cons_of_ne_nil (by simp),
        String.intercalate_cons_of_ne_nil (List.cons_ne_nil next more),
        String.utf8ByteSize_append, String.utf8ByteSize_append, String.utf8ByteSize_append,
        String.utf8ByteSize_append, ih (List.cons_ne_nil next more)]
      omega

lemma utf8ByteSize_text_child (p : Path) (name : String) :
    (p.child name).text.utf8ByteSize ≤ p.text.utf8ByteSize + 1 + name.utf8ByteSize := by
  have htext : (p.child name).text = p.root.text ++ "/".intercalate (p.names ++ [name]) :=
    if_neg (by simp [Path.child])
  rw [htext, Path.text, String.utf8ByteSize_append]
  by_cases hnames : p.names = []
  · rw [hnames, List.nil_append, String.intercalate_singleton]
    split
    · next hp =>
      rw [hp.1]
      exact Nat.add_le_add_right (by decide) _
    · simp only [String.utf8ByteSize_append]
      omega
  · rw [if_neg fun hp => hnames hp.2, String.utf8ByteSize_append,
      utf8ByteSize_intercalate_append hnames]
    omega

/-! ### Directories that are made -/

lemma walk_mono (hle : ∀ l, d.entry? l = some .directory → d'.entry? l = some .directory)
    {l' : Location} (h : d.walk l names = .ok l') : d'.walk l names = .ok l' := by
  induction names generalizing l with
  | nil => exact h
  | cons first rest ih =>
    rcases walk_cons_eq_ok_iff.mp h with ⟨hup, h⟩ | ⟨hup, hsize, hdir, h⟩
    · exact walk_cons_eq_ok_iff.mpr (.inl ⟨hup, ih h⟩)
    · exact walk_cons_eq_ok_iff.mpr (.inr ⟨hup, hsize, fun hrest => hle _ (hdir hrest), ih h⟩)

lemma locate_mono (hle : ∀ l, d.entry? l = some .directory → d'.entry? l = some .directory)
    (h : d.locate p = .ok l) : d'.locate p = .ok l := by
  obtain ⟨hnull, hsize, hwalk⟩ := locate_eq_ok_iff.mp h
  exact locate_eq_ok_iff.mpr ⟨hnull, hsize, walk_mono hle hwalk⟩

lemma LeadsToDirectory.mono (h : d.LeadsToDirectory p)
    (hle : ∀ l, d.entry? l = some .directory → d'.entry? l = some .directory) :
    d'.LeadsToDirectory p where
  located := locate_mono hle h.located
  there := hle _ h.there

/-- Writing where no directory is leaves the directories. -/
lemma LeadsToDirectory.put (h : d.LeadsToDirectory p) (hl : d.entry? l ≠ some .directory)
    (e : Entry) : (d.put l e).LeadsToDirectory p := by
  refine h.mono fun l' hl' => ?_
  rw [entry?_put (ne_nil_of_entry?_ne hl), if_neg, hl']
  rintro rfl
  exact hl hl'

/-- Removing what is no directory leaves the directories. -/
lemma LeadsToDirectory.without (h : d.LeadsToDirectory p) (hl : d.entry? l ≠ some .directory) :
    (d.without (· = l)).LeadsToDirectory p := by
  refine h.mono fun l' hl' => ?_
  by_cases hnil : l' = []
  · rw [hnil, entry?_nil]
  · rw [entry?_without _ hnil, if_neg, hl']
    intro heq
    obtain rfl := of_decide_eq_true heq
    exact hl hl'

lemma find?_eq_some_iff {e : Entry} :
    d.find? p = .ok (some e) ↔ d.locate p = .ok p.location ∧ d.entry? p.location = some e := by
  rw [find?, lookup]
  cases hlocate : d.locate p with
  | error e' =>
    simp only [reduceCtorEq, false_and, iff_false]
    split <;> simp_all
  | ok l =>
    obtain rfl := eq_location_of_locate hlocate
    cases hentry : d.entry? p.location <;> simp [hentry]

/-- What is read of a file is settled by its bytes. -/
lemma readText_of_find? {bytes : List UInt8} (h : d.find? p = .ok (some (.file bytes))) :
    d.readText p =
      match Text.Utf8.decode bytes with
      | .error fault => .error (.undecodable fault)
      | .ok t => .ok (Text.unifyLineEnds t) := by
  obtain ⟨hlocate, hentry⟩ := find?_eq_some_iff.mp h
  rw [readText, readFile, lookup, hlocate]
  cases hdecode : Text.Utf8.decode bytes <;> simp only [hentry, hdecode]

lemma readText_of_find?_directory (h : d.find? p = .ok (some .directory)) :
    d.readText p = .error (.disk (.refused .isDirectory p)) := by
  obtain ⟨hlocate, hentry⟩ := find?_eq_some_iff.mp h
  rw [readText, readFile, lookup, hlocate]
  simp only [hentry]

lemma leadsToDirectory_iff : d.LeadsToDirectory p ↔ d.find? p = .ok (some .directory) := by
  rw [find?_eq_some_iff]
  exact ⟨fun h => ⟨h.located, h.there⟩, fun h => ⟨h.1, h.2⟩⟩

lemma isDirectory_iff : d.isDirectory p = .ok true ↔ d.LeadsToDirectory p := by
  rw [leadsToDirectory_iff, isDirectory]
  rcases d.find? p with e | _ | _ | _ <;> simp [Except.map]

lemma LeadsToDirectory.isDirectory (h : d.LeadsToDirectory p) : d.isDirectory p = .ok true :=
  isDirectory_iff.mpr h

lemma leadsToDirectory_of_makeDirectory (h : d.makeDirectory p = .ok d') :
    d'.LeadsToDirectory p := by
  have hgrows := grows_makeDirectory h
  have hlocate : d.locate p = .ok p.location := by
    rw [makeDirectory] at h
    split at h
    · cases h
    · next l hl => rw [hl, eq_location_of_locate hl]
  obtain ⟨hnone, rfl⟩ := makeDirectory_eq_ok h
  refine ⟨locate_mono (fun l hl => hgrows.entry?_eq_of_some hl) hlocate, ?_⟩
  rw [entry?_put, if_pos rfl]
  intro hnil
  rw [hnil, entry?_nil] at hnone
  cases hnone

lemma leadsToDirectory_of_acceptDirectory {e : DiskError} (h : d.acceptDirectory p e = .ok ()) :
    d.LeadsToDirectory p := by
  unfold acceptDirectory at h
  split at h
  · cases h
  · split at h
    · next hdir => exact isDirectory_iff.mp hdir
    · cases h
    · cases h

/-- A directory that has been made is there. -/
lemma leadsToDirectory_of_makeDirectories (h : d.makeDirectories p = (.ok (), d')) :
    d'.LeadsToDirectory p := by
  rw [makeDirectories] at h
  split at h
  · next hmake =>
    obtain ⟨-, rfl⟩ := Prod.mk.inj h
    exact leadsToDirectory_of_makeDirectory hmake
  · split at h
    · cases h
    · split at h
      · cases h
      · split at h
        · next hmake =>
          obtain ⟨-, rfl⟩ := Prod.mk.inj h
          exact leadsToDirectory_of_makeDirectory hmake
        · cases h
        · obtain ⟨haccept, rfl⟩ := Prod.mk.inj h
          exact leadsToDirectory_of_acceptDirectory haccept
  · obtain ⟨haccept, rfl⟩ := Prod.mk.inj h
    exact leadsToDirectory_of_acceptDirectory haccept

/-- A directory that is there is not made again. -/
lemma LeadsToDirectory.makeDirectories (h : d.LeadsToDirectory p) :
    d.makeDirectories p = (.ok (), d) := by
  have hmake : d.makeDirectory p = .error (.refused .alreadyExists p) := by
    rw [makeDirectory, h.located]
    simp only [h.there]
  rw [Disk.makeDirectories, hmake]
  simp only [acceptDirectory, h.isDirectory]

lemma children_eq_nil_iff : d.children l = [] ↔ ∀ name, d.entry? (l ++ [name]) = none := by
  constructor
  · intro h name
    rw [entry?_child, h]
    rfl
  · intro h
    cases hchildren : d.children l with
    | nil => rfl
    | cons first rest =>
      have hname := h first.1
      rw [entry?_child, hchildren, Table.find?, if_pos (beq_self_eq_true first.1)] at hname
      cases hname

/-- Making a directory by a path that does not go up puts nothing into it. -/
lemma children_makeDirectories (hup : ".." ∉ p.names) (h : d.children p.location = []) :
    (d.makeDirectories p).2.children p.location = [] := by
  rw [children_eq_nil_iff] at h ⊢
  intro name
  rcases grows_makeDirectories d p (p.location ++ [name]) with hsame | hmade
  · rw [hsame, h]
  · obtain ⟨q, hq, hlocation⟩ := hmade.onTheWay
    -- the place of a part of the path is no longer than the path
    rw [Path.location, Path.follow_of_not_mem hup,
      Path.follow_of_not_mem fun hmem => hup (hq.subset hmem)] at hlocation
    have hlength := congrArg List.length hlocation
    simp only [List.nil_append, List.length_append, List.length_singleton] at hlength
    have hle := hq.length_le
    omega

/-! ### Paths that lead nowhere -/

/-- Names that the system takes on the way of a path. -/
def HasShortNames (names : List String) : Prop :=
  ∀ name ∈ names, name = ".." ∨ name.utf8ByteSize ≤ maxNameSize

lemma hasShortNames_of_walk {l' : Location} (h : d.walk l names = .ok l') :
    HasShortNames names := by
  induction names generalizing l with
  | nil => exact fun name hname => absurd hname List.not_mem_nil
  | cons first rest ih =>
    refine List.forall_mem_cons.mpr ?_
    rcases walk_cons_eq_ok_iff.mp h with ⟨hup, h⟩ | ⟨-, hsize, -, h⟩
    · exact ⟨.inl hup, ih h⟩
    · exact ⟨.inr hsize, ih h⟩

lemma walk_ne_nameTooLong (h : HasShortNames names) : d.walk l names ≠ .error .nameTooLong := by
  induction names generalizing l with
  | nil => rintro ⟨⟩
  | cons first rest ih =>
    obtain ⟨hfirst, hrest⟩ := List.forall_mem_cons.mp h
    rw [walk.eq_def]
    simp only
    split
    · exact ih hrest
    · next hup =>
      rw [if_neg (not_lt.mpr (hfirst.resolve_left hup))]
      split
      · rintro ⟨⟩
      · split
        · rintro ⟨⟩
        · rintro ⟨⟩
        · exact ih hrest

lemma find?_eq_none (hshort : HasShortNames p.names) (hsize : p.text.utf8ByteSize ≤ maxPathSize)
    (h : d.entry? p.location = none) : d.find? p = .ok none := by
  cases hfind : d.find? p with
  | error e =>
    obtain ⟨⟨-, hlong | hlong⟩, -⟩ := find?_eq_error_iff.mp hfind
    · exact absurd hlong (not_lt.mpr hsize)
    · exact absurd hlong (walk_ne_nameTooLong hshort)
  | ok x =>
    cases x with
    | none => rfl
    | some e =>
      rw [(find?_eq_some_iff.mp hfind).2] at h
      cases h

end Disk

end Scaffold
