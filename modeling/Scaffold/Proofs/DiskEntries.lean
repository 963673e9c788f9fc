import Mathlib.Data.List.Induction
import Mathlib.Data.List.Infix
import Scaffold.Proofs.DiskErrors

/-!
# The entries that an operation changes

Where a path leads can be told from its names alone, as far as it leads anywhere: there is nothing
on a disk that would lead elsewhere. With that the operations of the disk are described by what they
do to the entries: making directories makes some that were missing, at places that the path names on
its way; writing and removing a file change the one entry that the path names.
-/

namespace Scaffold

/-- Where names lead from a location. -/
def Path.follow (l : Location) : List String → Location
  | [] => l
  | name :: rest => follow (if name = ".." then l.dropLast else l ++ [name]) rest

/-- The location that a path names. -/
def Path.location (p : Path) : Location := Path.follow [] p.names

/-- A path passes a place that it names on its way or at its end. -/
def Path.Passes (p : Path) (l : Location) : Prop :=
  ∃ names, names <+: p.names ∧ Path.follow [] names = l

instance (p : Path) (l : Location) : Decidable (p.Passes l) :=
  decidable_of_iff (∃ names ∈ p.names.inits, Path.follow [] names = l)
    (by simp only [Path.Passes, List.mem_inits])

namespace Path

variable {p q : Path} {l : Location}

@[simp] lemma parent_child (p : Path) (name : String) : (p.child name).parent = p := by
  simp [child, parent]

@[simp] lemma names_child_ne_nil (p : Path) (name : String) : (p.child name).names ≠ [] :=
  List.concat_ne_nil name p.names

lemma endsUpward_child_iff {name : String} : (p.child name).endsUpward = true ↔ name = ".." := by
  simp [endsUpward, child]

lemma exists_child_of_endsUpward (h : p.endsUpward = true) : ∃ q : Path, p = q.child ".." := by
  obtain ⟨root, names⟩ := p
  obtain ⟨front, rfl⟩ := List.getLast?_eq_some_iff.mp (of_decide_eq_true h)
  exact ⟨⟨root, front⟩, rfl⟩

/-- A path is a root or a name below another path. -/
@[elab_as_elim]
lemma child_induction {motive : Path → Prop} (root : ∀ r, motive ⟨r, []⟩)
    (child : ∀ p name, motive p → motive (p.child name)) (p : Path) : motive p := by
  obtain ⟨r, names⟩ := p
  induction names using List.reverseRecOn with
  | nil => exact root r
  | append_singleton names name ih => exact child ⟨r, names⟩ name ih

/-- A path passes its own place, and what the path without its last name passes. -/
lemma passes_iff : p.Passes l ↔ l = p.location ∨ p.parent.Passes l := by
  constructor
  · rintro ⟨way, hway, rfl⟩
    by_cases hself : way = p.names
    · exact .inl (by rw [hself, location])
    · have hne : p.names ≠ [] := by
        intro hnil
        rw [hnil] at hway hself
        exact hself (List.prefix_nil.mp hway)
      rw [← List.dropLast_append_getLast hne] at hway hself
      exact .inr ⟨way, (List.prefix_concat_iff.mp hway).resolve_left hself, rfl⟩
  · rintro (rfl | ⟨way, hway, rfl⟩)
    · exact ⟨p.names, List.prefix_refl _, rfl⟩
    · exact ⟨way, hway.trans (List.dropLast_prefix _), rfl⟩

lemma passes_location (p : Path) : p.Passes p.location := passes_iff.mpr (.inl rfl)

lemma Passes.of_parent (h : p.parent.Passes l) : p.Passes l := passes_iff.mpr (.inr h)

lemma follow_append (l : Location) (names more : List String) :
    follow l (names ++ more) = follow (follow l names) more := by
  induction names generalizing l with
  | nil => rfl
  | cons name rest ih => exact ih _

lemma follow_of_not_mem {names : List String} (h : ".." ∉ names) : follow l names = l ++ names := by
  induction names generalizing l with
  | nil => exact (List.append_nil l).symm
  | cons name rest ih =>
    rw [List.mem_cons, not_or] at h
    rw [follow, if_neg (Ne.symm h.1), ih h.2, List.append_assoc, List.singleton_append]

lemma location_child (p : Path) (name : String) :
    (p.child name).location =
      if name = ".." then p.location.dropLast else p.location ++ [name] := by
  rw [location, child, follow_append]
  rfl

/-- A path from another one, without a root of its own. -/
lemma join_of_here (p : Path) (hroot : q.root = .here) :
    p.join q = { p with names := p.names ++ q.names } := by
  rw [join]
  simp only [hroot]

/-- A relative path that names something and does not go up. -/
structure NamesBelow (p : Path) : Prop where
  relative : p.root = .here
  nonempty : p.names ≠ []
  noParent : ".." ∉ p.names

instance (p : Path) : Decidable p.NamesBelow :=
  decidable_of_iff (p.root = .here ∧ p.names ≠ [] ∧ ".." ∉ p.names)
    ⟨fun ⟨hroot, hne, hup⟩ => ⟨hroot, hne, hup⟩, fun h => ⟨h.relative, h.nonempty, h.noParent⟩⟩

lemma NamesBelow.location_join (h : q.NamesBelow) (p : Path) :
    (p.join q).location = p.location ++ q.names := by
  rw [join_of_here p h.relative, location, follow_append, follow_of_not_mem h.noParent, location]

end Path

namespace Disk

variable {d d' : Disk} {p : Path} {l : Location}

/-! ### Single entries -/

/-- The places where two disks differ are among those singled out. -/
def ChangesOnly (P : Location → Prop) (d d' : Disk) : Prop :=
  ∀ l, d'.entry? l = d.entry? l ∨ P l

@[simp] lemma entry?_nil : d.entry? [] = some .directory := if_pos rfl

lemma entry?_of_prefix_nil (h : l <+: []) : d.entry? l = some .directory := by
  rw [List.prefix_nil.mp h, entry?_nil]

lemma entry?_put (hl : l ≠ []) (e : Entry) (l' : Location) :
    entry? (d.put l e) l' = if l = l' then some e else d.entry? l' := by
  by_cases hl' : l' = []
  · subst hl'
    rw [entry?_nil, entry?_nil, if_neg hl]
  · rw [Disk.entry?, Disk.entry?, if_neg hl', if_neg hl', put, Table.find?_insert]

lemma entry?_without (gone : Location → Bool) (hl : l ≠ []) :
    entry? (d.without gone) l = if gone l = true then none else d.entry? l := by
  rw [Disk.entry?, Disk.entry?, if_neg hl, if_neg hl, without,
    Table.find?_filter d.entries fun k => !gone k]
  cases gone l <;> rfl

lemma isBelow_iff {above l : Location} : isBelow above l = true ↔ above <+: l ∧ above ≠ l := by
  rw [isBelow, Bool.and_eq_true, List.isPrefixOf_iff_prefix, decide_eq_true_eq]
  constructor
  · rintro ⟨habove, hlength⟩
    refine ⟨habove, ?_⟩
    rintro rfl
    exact lt_irrefl _ hlength
  · rintro ⟨habove, hne⟩
    refine ⟨habove, lt_of_le_of_ne habove.length_le fun hlength => ?_⟩
    exact hne (habove.eq_of_length hlength)

lemma isBelow_append_singleton (l : Location) (name : String) :
    isBelow l (l ++ [name]) = true := by
  rw [isBelow_iff]
  exact ⟨List.prefix_append l [name], fun h => by simpa using congrArg List.length h⟩

/-! ### Where paths lead -/

lemma walk_up (rest : List String) : d.walk l (".." :: rest) = d.walk l.dropLast rest := by
  rw [walk.eq_def]
  exact if_pos rfl

/-- A path that goes on after a name goes on from a directory. -/
lemma walk_into {name : String} {rest : List String} (hup : name ≠ "..")
    (hsize : name.utf8ByteSize ≤ maxNameSize)
    (hdir : rest ≠ [] → d.entry? (l ++ [name]) = some .directory) :
    d.walk l (name :: rest) = d.walk (l ++ [name]) rest := by
  rw [walk.eq_def]
  simp only
  rw [if_neg hup, if_neg (not_lt.mpr hsize)]
  cases rest with
  | nil => rfl
  | cons next more => simp only [hdir (List.cons_ne_nil next more)]

/-- The first step of a path that leads anywhere. -/
lemma walk_cons_eq_ok_iff {name : String} {rest : List String} {l' : Location} :
    d.walk l (name :: rest) = .ok l' ↔
      name = ".." ∧ d.walk l.dropLast rest = .ok l' ∨
        name ≠ ".." ∧ name.utf8ByteSize ≤ maxNameSize ∧
          (rest ≠ [] → d.entry? (l ++ [name]) = some .directory) ∧
          d.walk (l ++ [name]) rest = .ok l' := by
  constructor
  · intro h
    have hstep := h
    rw [walk.eq_def] at hstep
    simp only at hstep
    split at hstep
    · next hup => exact .inl ⟨hup, hstep⟩
    · next hup =>
      split at hstep
      · cases hstep
      · next hsize =>
        have hdir : rest ≠ [] → d.entry? (l ++ [name]) = some .directory := by
          intro hrest
          split at hstep
          · exact absurd rfl hrest
          · split at hstep
            · cases hstep
            · cases hstep
            · assumption
        rw [walk_into hup (not_lt.mp hsize) hdir] at h
        exact .inr ⟨hup, not_lt.mp hsize, hdir, h⟩
  · rintro (⟨rfl, h⟩ | ⟨hup, hsize, hdir, h⟩)
    · rwa [walk_up]
    · rwa [walk_into hup hsize hdir]

lemma eq_follow_of_walk {names : List String} {l l' : Location} (h : d.walk l names = .ok l') :
    l' = Path.follow l names := by
  induction names generalizing l with
  | nil => exact (Except.ok.inj h).symm
  | cons name rest ih =>
    rw [Path.follow]
    rcases walk_cons_eq_ok_iff.mp h with ⟨hup, h⟩ | ⟨hup, -, -, h⟩
    · rw [if_pos hup]
      exact ih h
    · rw [if_neg hup]
      exact ih h

/-- A path that leads anywhere leads to the location that it names. -/
lemma eq_location_of_locate (h : d.locate p = .ok l) : l = p.location := by
  rw [locate] at h
  split at h
  · cases h
  · split at h
    · cases h
    · split at h
      · next l' hwalk =>
        obtain rfl := Except.ok.inj h
        exact eq_follow_of_walk hwalk
      · cases h

lemma makeDirectory_eq_ok (h : d.makeDirectory p = .ok d') :
    d.entry? p.location = none ∧ d' = d.put p.location .directory := by
  rw [makeDirectory] at h
  split at h
  · cases h
  · next l hl =>
    obtain rfl := eq_location_of_locate hl
    split at h
    · cases h
    · next hnone => exact ⟨hnone, (Except.ok.inj h).symm⟩

/-- A file is written at the place that its path names, unless a directory is there. -/
lemma writeText_eq_ok {t : List Char} (h : d.writeText p t = .ok d') :
    d.entry? p.location ≠ some .directory ∧
      d' = d.put p.location (.file (Text.Utf8.encode t)) := by
  rw [writeText, writeFile] at h
  split at h
  · cases h
  · next l hl =>
    obtain rfl := eq_location_of_locate hl
    split at h
    · cases h
    · next hentry => exact ⟨hentry, (Except.ok.inj h).symm⟩

lemma removeFile_eq_ok (h : d.removeFile p = .ok d') :
    (∃ bytes, d.entry? p.location = some (.file bytes)) ∧
      d' = d.without (· = p.location) := by
  rw [removeFile] at h
  split at h
  · cases h
  · next l hl =>
    obtain rfl := eq_location_of_locate hl
    split at h
    · cases h
    · split at h
      · cases h
      · cases h
      · next bytes hentry => exact ⟨⟨bytes, hentry⟩, (Except.ok.inj h).symm⟩

lemma readText_eq_ok {t : List Char} (h : d.readText p = .ok t) :
    ∃ bytes u, d.entry? p.location = some (.file bytes) ∧ Text.Utf8.decode bytes = .ok u ∧
      t = Text.unifyLineEnds u := by
  rw [readText, readFile, lookup] at h
  cases hl : d.locate p with
  | error e => simp [hl] at h
  | ok l =>
    obtain rfl := eq_location_of_locate hl
    cases hentry : d.entry? p.location with
    | none => simp [hl, hentry] at h
    | some entry =>
      cases entry with
      | directory => simp [hl, hentry] at h
      | file bytes =>
        simp only [hl, hentry] at h
        split at h
        · cases h
        · next u hu => exact ⟨bytes, u, rfl, hu, (Except.ok.inj h).symm⟩

/-! ### Directories that are made -/

/-- A directory that was missing and has been made, at a place that a path names on its way. -/
structure IsMade (p : Path) (d d' : Disk) (l : Location) : Prop where
  missing : d.entry? l = none
  made : d'.entry? l = some .directory
  onTheWay : p.Passes l

/-- The disk has not changed but for directories that were missing on the way of a path. -/
def Grows (p : Path) (d d' : Disk) : Prop := ∀ l, d'.entry? l = d.entry? l ∨ IsMade p d d' l

lemma Grows.refl (p : Path) (d : Disk) : Grows p d d := fun _ => .inl rfl

lemma Grows.of_parent (h : Grows p.parent d d') : Grows p d d' := fun l =>
  (h l).imp_right fun hmade => ⟨hmade.missing, hmade.made, hmade.onTheWay.of_parent⟩

lemma Grows.entry?_eq_of_some (h : Grows p d d') {e : Entry} (he : d.entry? l = some e) :
    d'.entry? l = some e := by
  rcases h l with hsame | hmade
  · rw [hsame, he]
  · rw [hmade.missing] at he
    cases he

lemma Grows.trans {d₁ d₂ d₃ : Disk} (h₁ : Grows p d₁ d₂) (h₂ : Grows p d₂ d₃) : Grows p d₁ d₃ := by
  intro l
  rcases h₁ l with hsame | hmade
  · rcases h₂ l with hsame' | hmade'
    · exact .inl (hsame'.trans hsame)
    · exact .inr ⟨hsame ▸ hmade'.missing, hmade'.made, hmade'.onTheWay⟩
  · exact .inr ⟨hmade.missing, h₂.entry?_eq_of_some hmade.made, hmade.onTheWay⟩

lemma grows_makeDirectory (h : d.makeDirectory p = .ok d') : Grows p d d' := by
  obtain ⟨hnone, rfl⟩ := makeDirectory_eq_ok h
  have hne : p.location ≠ [] := by
    intro hnil
    rw [hnil, entry?_nil] at hnone
    cases hnone
  intro l
  by_cases hl : p.location = l
  · refine .inr ⟨hl ▸ hnone, ?_, hl ▸ p.passes_location⟩
    rw [entry?_put hne, if_pos hl]
  · rw [entry?_put hne, if_neg hl]
    exact .inl rfl

/-- Making directories changes nothing but what was missing on the way, also if it is refused. -/
theorem grows_makeDirectories (d : Disk) (p : Path) : Grows p d (d.makeDirectories p).2 := by
  induction hn : p.names.length generalizing p with
  | zero =>
    rw [makeDirectories]
    split
    · next d' h => exact grows_makeDirectory h
    · rw [dif_pos (List.length_eq_zero_iff.mp hn)]
      exact Grows.refl _ _
    · exact Grows.refl _ _
  | succ n ih =>
    have hne : p.names ≠ [] := List.length_pos_iff.mp (by omega)
    have hparent : Grows p d (d.makeDirectories p.parent).2 := by
      refine (ih p.parent ?_).of_parent
      simp only [Path.parent, List.length_dropLast]
      omega
    rw [makeDirectories]
    split
    · next d' h => exact grows_makeDirectory h
    · rw [dif_neg hne]
      split
      · next e d' h =>
        rw [h] at hparent
        exact hparent
      · next d' h =>
        rw [h] at hparent
        split
        · next d'' h' => exact hparent.trans (grows_makeDirectory h')
        · exact hparent
        · exact hparent
    · exact Grows.refl _ _

/-! ### Text files that are saved -/

/-- Saving a text makes the directories that are missing above it. The text is then at the place
that its path names, where no directory was; or it is not saved and nothing else has changed. -/
theorem saveText_cases (d : Disk) (p : Path) (t : List Char) :
    (∃ e d', d.saveText p t = (.error e, d') ∧ Grows p.parent d d') ∨
      ∃ d₁, d.saveText p t = (.ok (), d₁.put p.location (.file (Text.Utf8.encode t))) ∧
        Grows p.parent d d₁ ∧ d₁.entry? p.location ≠ some .directory := by
  have hgrows := grows_makeDirectories d p.parent
  rw [saveText]
  rcases hmake : d.makeDirectories p.parent with ⟨e | u, d₁⟩
  · rw [hmake] at hgrows
    exact .inl ⟨e, d₁, rfl, hgrows⟩
  · rw [hmake] at hgrows
    cases hwrite : d₁.writeText p t with
    | error e =>
      simp only [hwrite]
      exact .inl ⟨e, d₁, rfl, hgrows⟩
    | ok d' =>
      obtain ⟨hentry, rfl⟩ := writeText_eq_ok hwrite
      simp only [hwrite]
      exact .inr ⟨d₁, rfl, hgrows, hentry⟩

lemma ne_nil_of_entry?_ne (h : d.entry? l ≠ some .directory) : l ≠ [] := by
  rintro rfl
  exact h entry?_nil

end Disk

end Scaffold
