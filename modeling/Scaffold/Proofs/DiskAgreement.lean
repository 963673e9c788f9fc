import Scaffold.Execution.Attempt
import Scaffold.Proofs.DirectoryListing

/-!
# Disks that agree

An operation on a path looks at the places that the path names on its way, and at no others. Two
disks that hold the same at these places therefore cannot be told apart by it: it answers the same
on both, and what it changes it changes on both alike. From the single operations this passes to the
verdicts on conditions and to the attempt at an instruction.
-/

namespace Scaffold

/-- The places that a path names on its way are all among those singled out. -/
def Path.StaysOn (P : Location → Prop) (p : Path) : Prop := ∀ l, p.Passes l → P l

instance (P : Location → Prop) [DecidablePred P] (p : Path) : Decidable (p.StaysOn P) :=
  decidable_of_iff (∀ names ∈ p.names.inits, P (Path.follow [] names))
    (by simp [Path.StaysOn, Path.Passes, List.mem_inits])

namespace Disk

variable {P : Location → Prop} {d d' : Disk} {p : Path} {names way : List String} {l : Location}

/-! ### On the way of a path -/

/-- Names are followed alike on disks that hold the same on their way. -/
lemma walk_congr
    (h : ∀ way, way <+: names → d.entry? (Path.follow l way) = d'.entry? (Path.follow l way)) :
    d.walk l names = d'.walk l names := by
  induction names generalizing l with
  | nil => rfl
  | cons name rest ih =>
    have hrest : ∀ way, way <+: rest →
        let m := if name = ".." then l.dropLast else l ++ [name]
        d.entry? (Path.follow m way) = d'.entry? (Path.follow m way) :=
      fun way hway => h (name :: way) ((List.prefix_cons_inj name).mpr hway)
    rw [walk.eq_def, walk.eq_def]
    simp only
    split
    · next hup =>
      simp only [hup, if_true] at hrest
      exact ih hrest
    · next hup =>
      simp only [hup, if_false] at hrest
      split
      · rfl
      · cases rest with
        | nil => rfl
        | cons next more =>
          have hentry : d.entry? (l ++ [name]) = d'.entry? (l ++ [name]) :=
            hrest [] List.nil_prefix
          simp only
          rw [← hentry]
          cases d.entry? (l ++ [name]) with
          | none => rfl
          | some e =>
            cases e with
            | file bytes => rfl
            | directory => exact ih hrest

/-- What stands on the way is directories, also above each of them. -/
lemma entry?_of_walk {l' : Location} (hl : ∀ m, m <+: l → d.entry? m = some .directory)
    (h : d.walk l names = .ok l') (hway : way <+: names) (hne : way ≠ names) {m : Location}
    (hm : m <+: Path.follow l way) : d.entry? m = some .directory := by
  induction names generalizing l way with
  | nil => exact absurd (List.prefix_nil.mp hway) hne
  | cons name rest ih =>
    cases way with
    | nil => exact hl m hm
    | cons first more =>
      obtain ⟨rfl, hmore⟩ := List.cons_prefix_cons.mp hway
      have hne' : more ≠ rest := fun heq => hne (heq ▸ rfl)
      rw [Path.follow] at hm
      rcases walk_cons_eq_ok_iff.mp h with ⟨hup, h⟩ | ⟨hup, -, hdir, h⟩
      · rw [if_pos hup] at hm
        exact ih (fun m' hm' => hl m' (hm'.trans (List.dropLast_prefix l))) h hmore hne' hm
      · rw [if_neg hup] at hm
        have hrest : rest ≠ [] := by
          rintro rfl
          exact hne' (List.prefix_nil.mp hmore)
        refine ih (fun m' hm' => ?_) h hmore hne' hm
        rcases List.prefix_concat_iff.mp hm' with rfl | hbefore
        · exact hdir hrest
        · exact hl m' hbefore

/-- What a path that leads somewhere passes on its way is there, and so is what is above it. -/
lemma entry?_above_of_locate (h : d.locate p = .ok l) {l' m : Location} (hl' : p.parent.Passes l')
    (hm : m <+: l') : d.entry? m = some .directory := by
  obtain ⟨-, -, hwalk⟩ := locate_eq_ok_iff.mp h
  obtain ⟨way, hway, rfl⟩ := hl'
  by_cases hnames : p.names = []
  · obtain rfl : way = [] := by simpa [Path.parent, hnames] using hway
    exact entry?_of_prefix_nil hm
  · refine entry?_of_walk (fun m hm => entry?_of_prefix_nil hm) hwalk
      (hway.trans (List.dropLast_prefix _)) (fun heq => ?_) hm
    have hlength := hway.length_le
    have hpos := List.length_pos_iff.mpr hnames
    rw [heq, Path.parent, List.length_dropLast] at hlength
    omega

lemma entry?_of_locate (h : d.locate p = .ok l) {l' : Location} (hl' : p.parent.Passes l') :
    d.entry? l' = some .directory :=
  entry?_above_of_locate h hl' (List.prefix_refl _)

lemma LeadsToDirectory.entry?_of_passes (h : d.LeadsToDirectory p) (hl : p.Passes l) :
    d.entry? l = some .directory := by
  rcases Path.passes_iff.mp hl with rfl | hparent
  · exact h.there
  · exact entry?_of_locate h.located hparent

/-- Two disks hold the same at the places singled out. -/
def AgreeOn (P : Location → Prop) (d d' : Disk) : Prop := ∀ l, P l → d.entry? l = d'.entry? l

lemma AgreeOn.symm (h : AgreeOn P d d') : AgreeOn P d' d := fun l hl => (h l hl).symm

lemma AgreeOn.trans {d'' : Disk} (h : AgreeOn P d d') (h' : AgreeOn P d' d'') : AgreeOn P d d'' :=
  fun l hl => (h l hl).trans (h' l hl)

end Disk

lemma Path.StaysOn.parent {P : Location → Prop} {p : Path} (h : p.StaysOn P) :
    p.parent.StaysOn P := fun l hl => h l hl.of_parent

namespace Disk

/-! ### Questions -/

section Questions

variable {P : Location → Prop} {d d' : Disk} {p : Path} (h : AgreeOn P d d') (hp : p.StaysOn P)

include h hp

lemma entry?_congr : d.entry? p.location = d'.entry? p.location :=
  h _ (hp _ p.passes_location)

lemma locate_congr : d.locate p = d'.locate p := by
  have hwalk : d.walk [] p.names = d'.walk [] p.names :=
    walk_congr fun way hway => h _ (hp _ ⟨way, hway, rfl⟩)
  rw [locate, locate, hwalk]

lemma lookup_congr : d.lookup p = d'.lookup p := by
  rw [lookup, lookup, ← locate_congr h hp]
  cases hlocate : d.locate p with
  | error e => rfl
  | ok l =>
    obtain rfl := eq_location_of_locate hlocate
    simp only
    rw [entry?_congr h hp]

lemma find?_congr : d.find? p = d'.find? p := by rw [find?, find?, lookup_congr h hp]

lemma holds_congr : d.holds p = d'.holds p := by rw [holds, holds, find?_congr h hp]

lemma isFile_congr : d.isFile p = d'.isFile p := by rw [isFile, isFile, find?_congr h hp]

lemma isDirectory_congr : d.isDirectory p = d'.isDirectory p := by
  rw [isDirectory, isDirectory, find?_congr h hp]

lemma readText_congr : d.readText p = d'.readText p := by
  rw [readText, readText, readFile, readFile, lookup_congr h hp]

lemma textIfAny_congr : d.textIfAny p = d'.textIfAny p := by
  rw [textIfAny, textIfAny, holds_congr h hp, readText_congr h hp]

lemma acceptDirectory_congr (e : DiskError) : d.acceptDirectory p e = d'.acceptDirectory p e := by
  unfold acceptDirectory
  rw [isDirectory_congr h hp]

end Questions

/-! ### Changes of one entry -/

/-- The same has come of an operation on two disks: the same error, or disks that agree. -/
inductive SameOutcome (P : Location → Prop) : Except DiskError Disk → Except DiskError Disk → Prop
  | error (e : DiskError) : SameOutcome P (.error e) (.error e)
  | ok {d d' : Disk} (h : AgreeOn P d d') : SameOutcome P (.ok d) (.ok d')

section Changes

variable {P : Location → Prop} {d d' : Disk} {p : Path} (h : AgreeOn P d d')

include h

lemma AgreeOn.put {l : Location} (hl : l ≠ []) (e : Entry) :
    AgreeOn P (d.put l e) (d'.put l e) := by
  intro l' hl'
  rw [entry?_put hl, entry?_put hl, h l' hl']

lemma AgreeOn.without (gone : Location → Bool) : AgreeOn P (d.without gone) (d'.without gone) := by
  intro l hl
  by_cases hnil : l = []
  · rw [hnil, entry?_nil, entry?_nil]
  · rw [entry?_without _ hnil, entry?_without _ hnil, h l hl]

variable (hp : p.StaysOn P)

include hp

lemma makeDirectory_congr : SameOutcome P (d.makeDirectory p) (d'.makeDirectory p) := by
  rw [makeDirectory, makeDirectory, ← locate_congr h hp]
  cases hlocate : d.locate p with
  | error e => exact .error e
  | ok l =>
    obtain rfl := eq_location_of_locate hlocate
    simp only
    rw [← entry?_congr h hp]
    cases hentry : d.entry? p.location with
    | some e => exact .error _
    | none =>
      have hne : p.location ≠ [] := ne_nil_of_entry?_ne (d := d) (by simp [hentry])
      exact .ok (h.put hne _)

lemma writeText_congr (t : List Char) : SameOutcome P (d.writeText p t) (d'.writeText p t) := by
  rw [writeText, writeText, writeFile, writeFile, ← locate_congr h hp]
  cases hlocate : d.locate p with
  | error e => exact .error e
  | ok l =>
    obtain rfl := eq_location_of_locate hlocate
    simp only
    rw [← entry?_congr h hp]
    by_cases hdir : d.entry? p.location = some .directory
    · simp only [hdir]
      exact .error _
    · have hput := h.put (ne_nil_of_entry?_ne hdir) (.file (Text.Utf8.encode t))
      cases hentry : d.entry? p.location with
      | none => exact .ok hput
      | some e =>
        cases e with
        | file bytes => exact .ok hput
        | directory => exact absurd hentry hdir

lemma removeFile_congr : SameOutcome P (d.removeFile p) (d'.removeFile p) := by
  rw [removeFile, removeFile, ← locate_congr h hp]
  cases hlocate : d.locate p with
  | error e => exact .error e
  | ok l =>
    obtain rfl := eq_location_of_locate hlocate
    simp only
    rw [← entry?_congr h hp]
    split
    · exact .error _
    · cases d.entry? p.location with
      | none => exact .error _
      | some e =>
        cases e with
        | directory => exact .error _
        | file bytes => exact .ok (h.without _)

end Changes

/-! ### Changes in several steps -/

/-- An operation has come to the same result on two disks and has left disks that agree. -/
inductive SameRun {α : Type} (P : Location → Prop) : α × Disk → α × Disk → Prop
  | intro (a : α) {d d' : Disk} (h : AgreeOn P d d') : SameRun P (a, d) (a, d')

section Steps

variable {P : Location → Prop} {d d' : Disk} {p : Path}

lemma leadsToDirectory_root (d : Disk) (r : Root) : d.LeadsToDirectory ⟨r, []⟩ where
  located := locate_eq_ok_iff.mpr ⟨rfl, by cases r <;> decide, rfl⟩
  there := entry?_nil

/-- What comes of a try at making a directory after which there is no other. -/
def settle (d : Disk) (p : Path) : Except DiskError Disk → Except DiskError Unit × Disk
  | .ok d' => (.ok (), d')
  | .error (.refused .notFound q) => (.error (.refused .notFound q), d)
  | .error e => (d.acceptDirectory p e, d)

/-- Whether a directory could not be made because one above it is missing. -/
def lacksParent : Except DiskError Disk → Bool
  | .error (.refused .notFound _) => true
  | _ => false

lemma makeDirectories_child (d : Disk) (q : Path) (name : String) :
    let p := q.child name
    d.makeDirectories p =
      if lacksParent (d.makeDirectory p) then
        match d.makeDirectories q with
        | (.error e, d₁) => (.error e, d₁)
        | (.ok (), d₁) => settle d₁ p (d₁.makeDirectory p)
      else settle d p (d.makeDirectory p) := by
  intro p
  have hparent : p.parent = q := q.parent_child name
  have hne : p.names ≠ [] := List.concat_ne_nil name q.names
  rw [makeDirectories.eq_def, hparent]
  rcases d.makeDirectory p with (⟨fault, r⟩ | r | _) | d'
  · cases fault with
    | notFound =>
      simp only [dif_neg hne]
      rfl
    | _ => rfl
  · rfl
  · rfl
  · rfl

lemma SameOutcome.lacksParent_eq {x y : Except DiskError Disk} (h : SameOutcome P x y) :
    lacksParent x = lacksParent y := by cases h <;> rfl

lemma settle_congr (h : AgreeOn P d d') (hp : p.StaysOn P) {x y : Except DiskError Disk}
    (hxy : SameOutcome P x y) : SameRun P (settle d p x) (settle d' p y) := by
  cases hxy with
  | ok hmade => exact .intro _ hmade
  | error e =>
    have haccept : SameRun P (d.acceptDirectory p e, d) (d'.acceptDirectory p e, d') := by
      rw [acceptDirectory_congr h hp]
      exact .intro _ h
    rcases e with ⟨fault, r⟩ | r | _
    · cases fault with
      | notFound => exact .intro _ h
      | _ => exact haccept
    · exact haccept
    · exact haccept

lemma makeDirectories_congr (h : AgreeOn P d d') (hp : p.StaysOn P) :
    SameRun P (d.makeDirectories p) (d'.makeDirectories p) := by
  induction p using Path.child_induction with
  | root r =>
    rw [(leadsToDirectory_root d r).makeDirectories, (leadsToDirectory_root d' r).makeDirectories]
    exact .intro _ h
  | child q name ih =>
    have hmake := makeDirectory_congr h hp
    rw [makeDirectories_child, makeDirectories_child, ← hmake.lacksParent_eq]
    split
    · have hparent := ih (by simpa using hp.parent)
      generalize d.makeDirectories q = x at hparent ⊢
      generalize d'.makeDirectories q = y at hparent ⊢
      obtain ⟨result, hdisk⟩ := hparent
      cases result with
      | error e => exact .intro _ hdisk
      | ok u => exact settle_congr hdisk hp (makeDirectory_congr hdisk hp)
    · exact settle_congr h hp hmake

lemma saveText_congr (h : AgreeOn P d d') (hp : p.StaysOn P) (t : List Char) :
    SameRun P (d.saveText p t) (d'.saveText p t) := by
  have hmake := makeDirectories_congr h hp.parent
  rw [saveText, saveText]
  generalize d.makeDirectories p.parent = x at hmake ⊢
  generalize d'.makeDirectories p.parent = y at hmake ⊢
  obtain ⟨result, hdisk⟩ := hmake
  cases result with
  | error e => exact .intro _ hdisk
  | ok u =>
    rename_i d₁ d₁'
    have hwrite := writeText_congr hdisk hp t
    simp only
    generalize d₁.writeText p t = x at hwrite ⊢
    generalize d₁'.writeText p t = y at hwrite ⊢
    cases hwrite with
    | error e => exact .intro _ hdisk
    | ok hwritten => exact .intro _ hwritten

end Steps

end Disk

/-! ### Changes and verdicts -/

section Attempt

variable {P : Location → Prop} {d d' : Disk} (h : Disk.AgreeOn P d d')

include h

section Change

variable {p : Path} (hp : p.StaysOn P)

include hp

lemma Change.write_congr (t : List Char) :
    Disk.SameRun P (Change.write p t d) (Change.write p t d') := by
  have hsave := Disk.saveText_congr h hp t
  rw [Change.write, Change.write]
  generalize d.saveText p t = x at hsave ⊢
  generalize d'.saveText p t = y at hsave ⊢
  obtain ⟨result, hdisk⟩ := hsave
  rcases result with (e | e | _) | u <;> exact .intro _ hdisk

lemma Change.remove_congr : Disk.SameRun P (Change.remove p d) (Change.remove p d') := by
  have hremove := Disk.removeFile_congr h hp
  rw [Change.remove, Change.remove, ← Disk.holds_congr h hp]
  rcases d.holds p with e | there
  · exact .intro _ h
  · cases there with
    | false => exact .intro _ h
    | true =>
      simp only
      generalize d.removeFile p = x at hremove ⊢
      generalize d'.removeFile p = y at hremove ⊢
      cases hremove with
      | error e => exact .intro _ h
      | ok hremoved => exact .intro _ hremoved

lemma Change.read_congr : Change.read p d = Change.read p d' := by
  rw [Change.read, Change.read, Disk.isFile_congr h hp, Disk.readText_congr h hp]

/-- A change of a file comes to the same on disks that agree on the way to the file. -/
theorem Change.apply_congr (c : Change) : Disk.SameRun P (c.apply p d) (c.apply p d') := by
  unfold Change.apply
  cases c with
  | create content => exact Change.write_congr h hp content
  | delete => exact Change.remove_congr h hp
  | edit f =>
    simp only
    rw [← Change.read_congr h hp]
    cases Change.read p d with
    | error e => exact .intro _ h
    | ok t =>
      simp only
      cases f t with
      | none => exact .intro _ h
      | some t' => exact Change.write_congr h hp t'

end Change

/-- The file that a condition looks at, if it looks at one. -/
def Condition.target? (default : Option String) (c : Condition) : Option String :=
  match c.kind with
  | .moduleExists | .moduleNotExists => none
  | .patternExists | .patternNotExists | .patternCount => c.searched? default
  | .fileExists | .fileNotExists => given? ((given? c.target).or c.value)

omit h in
lemma judgeText_congr {default : Option String} {c : Condition}
    {judge judge' : String → String → Except Text.Unwritable Verdict}
    (heq : ∀ target, c.searched? default = some target → judge target = judge' target) :
    c.judgeText default judge = c.judgeText default judge' := by
  rw [Condition.judgeText, Condition.judgeText]
  cases hsearched : c.searched? default with
  | none => rfl
  | some target =>
    simp only
    rw [heq target hsearched]

section Verdict

variable {context : Context} {default : Option String} {c : Condition}

lemma judgePattern_congr {expected : Bool}
    (hc : ∀ target, c.searched? default = some target → (context.resolve target).StaysOn P) :
    c.judgePattern context default d expected = c.judgePattern context default d' expected := by
  refine judgeText_congr fun target htarget => ?_
  dsimp only
  rw [Disk.textIfAny_congr h (hc target htarget)]

lemma judgeCount_congr
    (hc : ∀ target, c.searched? default = some target → (context.resolve target).StaysOn P) :
    c.judgeCount context default d = c.judgeCount context default d' := by
  refine judgeText_congr fun target htarget => ?_
  dsimp only
  rw [Disk.textIfAny_congr h (hc target htarget)]

lemma judgeFile_congr {expected : Bool}
    (hc : ∀ target, given? ((given? c.target).or c.value) = some target →
      (context.resolve target).StaysOn P) :
    c.judgeFile context d expected = c.judgeFile context d' expected := by
  rw [Condition.judgeFile, Condition.judgeFile]
  cases hgiven : given? ((given? c.target).or c.value) with
  | none => rfl
  | some target =>
    simp only
    rw [Disk.holds_congr h (hc target hgiven)]

/-- A condition has the same verdict on disks that agree on the way to the file that it looks at. -/
theorem Condition.judge_congr
    (hc : ∀ target, c.target? default = some target → (context.resolve target).StaysOn P) :
    c.judge context default d = c.judge context default d' := by
  unfold Condition.target? at hc
  unfold Condition.judge
  cases hkind : c.kind with
  | moduleExists => rfl
  | moduleNotExists => rfl
  | patternExists =>
    rw [hkind] at hc
    exact judgePattern_congr h hc
  | patternNotExists =>
    rw [hkind] at hc
    exact judgePattern_congr h hc
  | patternCount =>
    rw [hkind] at hc
    exact judgeCount_congr h hc
  | fileExists =>
    rw [hkind] at hc
    exact congrArg Except.ok (judgeFile_congr h hc)
  | fileNotExists =>
    rw [hkind] at hc
    exact congrArg Except.ok (judgeFile_congr h hc)

end Verdict

end Attempt

/-! ### Attempts -/

/-- The paths that an instruction names: that of its file, and those of the files that the
conditions of its guard look at. -/
def Instruction.namedPaths (context : Context) (i : Instruction) : List Path :=
  let targets :=
    match i.condition with
    | none => []
    | some g => g.conditions.filterMap (Condition.target? (some i.path))
  (i.path :: targets).map context.resolve

section Attempt

variable {P : Location → Prop} {d d' : Disk} {context : Context} {i : Instruction}

lemma mem_namedPaths_path : context.resolve i.path ∈ i.namedPaths context :=
  List.mem_map_of_mem List.mem_cons_self

lemma mem_namedPaths_target {g : ConditionGroup} (hg : i.condition = some g) {c : Condition}
    (hc : c ∈ g.conditions) {target : String} (htarget : c.target? (some i.path) = some target) :
    context.resolve target ∈ i.namedPaths context := by
  rw [Instruction.namedPaths, hg]
  exact List.mem_map_of_mem (List.mem_cons_of_mem _ (List.mem_filterMap.mpr ⟨c, hc, htarget⟩))

variable (h : Disk.AgreeOn P d d') (hi : ∀ p ∈ i.namedPaths context, p.StaysOn P)

include h hi

lemma Instruction.judge_congr : i.judge context d = i.judge context d' := by
  rw [Instruction.judge, Instruction.judge]
  cases hg : i.condition with
  | none => rfl
  | some g =>
    simp only
    rw [ConditionGroup.judge, ConditionGroup.judge]
    have hmembers : g.conditions.mapM (Condition.judge context (some i.path) d) =
        g.conditions.mapM (Condition.judge context (some i.path) d') :=
      mapM_congr fun c hc => Condition.judge_congr h fun target htarget =>
        hi _ (mem_namedPaths_target hg hc htarget)
    rw [hmembers]

lemma Instruction.tryChange_congr :
    Disk.SameRun P (i.tryChange context d) (i.tryChange context d') := by
  rw [Instruction.tryChange, Instruction.tryChange]
  cases i.lacking with
  | cons field fields => exact .intro _ h
  | nil =>
    have happly := i.change.apply_congr h (hi _ mem_namedPaths_path)
    simp only
    generalize i.change.apply (context.resolve i.path) d = x at happly ⊢
    generalize i.change.apply (context.resolve i.path) d' = y at happly ⊢
    obtain ⟨result, hdisk⟩ := happly
    rcases result with (cause | e) | changed <;> exact .intro _ hdisk

/-- An attempt at an instruction comes to the same on disks that agree on the way of every path that
the instruction names. -/
theorem Instruction.attempt_congr :
    Disk.SameRun P (i.attempt context d) (i.attempt context d') := by
  rw [Instruction.attempt, Instruction.attempt, ← Instruction.judge_congr h hi]
  cases i.judge context d with
  | error e => exact .intro _ h
  | ok guard =>
    have hchange := Instruction.tryChange_congr h hi
    simp only
    split
    · generalize i.tryChange context d = x at hchange ⊢
      generalize i.tryChange context d' = y at hchange ⊢
      obtain ⟨ending, hdisk⟩ := hchange
      exact .intro _ hdisk
    · exact .intro _ h

end Attempt

end Scaffold
