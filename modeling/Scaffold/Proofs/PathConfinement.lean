import Scaffold.Proofs.DiskAgreement
import Scaffold.Proofs.RunFrame

/-!
# Where instructions reach

The path of an instruction is joined to the project's root and followed as it is; nothing keeps it
inside the project. What a run changes is therefore described by the paths of its instructions:
every place that it changes is named by one of these paths or is a place of the log, whatever comes
of the run. Where the paths stay inside the project, so do the changes.
-/

namespace Scaffold

open Disk

/-- The places that an instruction can change by its path: the place of its file, unless a directory
is there, and those of the directories that are missing on the way. -/
def Instruction.Names (context : Context) (i : Instruction) (d : Disk) (l : Location) : Prop :=
  let p := context.resolve i.path
  (l = p.location ∧ d.entry? l ≠ some .directory) ∨
    (d.entry? l = none ∧ p.parent.Passes l)

/-- The places that a run of instructions can change. -/
def Batch.Reaches (log : Option Log.Store) (context : Context) (is : List Instruction) (d : Disk)
    (l : Location) : Prop :=
  (∃ i ∈ is, i.Names context d l) ∨ ∃ store, log = some store ∧ store.Owns d l

section Run

variable {log : Option Log.Store} {context : Context} {is : List Instruction}

/-- Which places can be changed is not changed by a run, as far as it has left them alone. -/
lemma reaches_congr {d d' : Disk} {l : Location} (h : d'.entry? l = d.entry? l) :
    Batch.Reaches log context is d' l ↔ Batch.Reaches log context is d l := by
  simp only [Batch.Reaches, Instruction.Names, Log.Store.Owns, h]

lemma changesOnly_reaches_trans {d₁ d₂ d₃ : Disk}
    (h₁ : ChangesOnly (Batch.Reaches log context is d₁) d₁ d₂)
    (h₂ : ChangesOnly (Batch.Reaches log context is d₂) d₂ d₃) :
    ChangesOnly (Batch.Reaches log context is d₁) d₁ d₃ := by
  intro l
  rcases h₁ l with hsame | hreached
  · rcases h₂ l with hsame' | hreached
    · exact .inl (hsame'.trans hsame)
    · exact .inr ((reaches_congr hsame).mp hreached)
  · exact .inr hreached

variable (log context) in
/-- Carrying out one instruction of a run changes only places that the run can change. -/
lemma apply_changesOnly {i : Instruction} (hi : i ∈ is) (index : Int) :
    (i.apply log context index).Relates
      fun d => ChangesOnly (Batch.Reaches log context is d) d := by
  intro s l
  rcases hrun : (i.apply log context index).outcome s with ⟨result, s'⟩
  rcases apply_entry?_cases hrun l with
    hsame | htarget | hmade | ⟨store, hstore, hmade | ⟨hl, -⟩⟩
  · exact .inl hsame
  · exact .inr (.inl ⟨i, hi, .inl htarget⟩)
  · exact .inr (.inl ⟨i, hi, .inr ⟨hmade.missing, hmade.onTheWay⟩⟩)
  · have hmissing : s.disk.entry? l ≠ some .directory := by simp [hmade.missing]
    exact .inr (.inr ⟨store, hstore, .inl ⟨hmissing, hmade.onTheWay⟩⟩)
  · exact .inr (.inr ⟨store, hstore, .inr ⟨_, hl⟩⟩)

variable (log context is) in
lemma applyAll_changesOnly :
    (applyAll log context is).Relates fun d => ChangesOnly (Batch.Reaches log context is d) d :=
  relates_applyAll (R := fun d => ChangesOnly (Batch.Reaches log context is d) d)
    (fun _ _ => .inl rfl) (fun _ _ _ => changesOnly_reaches_trans)
    fun _ hi index => apply_changesOnly log context hi index

end Run

/-! ### Paths that stay inside the project -/

/-- A path of an instruction that stays inside the project: it leads to a place strictly inside, or
to a directory that is there, and on its way it leaves the project only where something is there. -/
structure Instruction.StaysInside (context : Context) (i : Instruction) (d : Disk) : Prop where
  target : isBelow context.root.location (context.resolve i.path).location = true ∨
    d.entry? (context.resolve i.path).location = some .directory
  onTheWay : ∀ l, (context.resolve i.path).parent.Passes l →
    isBelow context.root.location l = true ∨ d.entry? l ≠ none

section Inside

variable {context : Context} {i : Instruction} {d : Disk}

lemma Instruction.StaysInside.isBelow_of_names (h : i.StaysInside context d) {l : Location}
    (hl : i.Names context d l) : isBelow context.root.location l = true := by
  rcases hl with ⟨rfl, hentry⟩ | ⟨hmissing, hpassed⟩
  · exact h.target.resolve_right hentry
  · exact (h.onTheWay l hpassed).resolve_right (not_not_intro hmissing)

/-- In a project that is there, a path that names something below it stays inside. -/
lemma Instruction.staysInside_of_namesBelow (hroot : d.isDirectory context.root = .ok true)
    (hbelow : (Path.ofString i.path).NamesBelow) : i.StaysInside context d := by
  have hinside {rest : List String} (hrest : ".." ∉ rest) (hne : rest ≠ []) :
      isBelow context.root.location (Path.follow context.root.location rest) = true := by
    rw [Path.follow_of_not_mem hrest, isBelow_iff]
    exact ⟨List.prefix_append _ _, fun heq => hne (List.append_right_eq_self.mp heq.symm)⟩
  have hdir := isDirectory_iff.mp hroot
  have hjoin := Path.join_of_here context.root hbelow.relative
  have htarget : (context.resolve i.path).location =
      Path.follow context.root.location (Path.ofString i.path).names := by
    rw [Context.resolve, hjoin, Path.location, Path.follow_append, Path.location]
  refine ⟨.inl (htarget ▸ hinside hbelow.noParent hbelow.nonempty), fun l hl => ?_⟩
  obtain ⟨way, hway, rfl⟩ := hl.of_parent
  rw [Context.resolve, hjoin] at hway
  rcases List.prefix_or_prefix_of_prefix hway (List.prefix_append _ _) with hbefore | ⟨rest, rfl⟩
  · simp [hdir.entry?_of_passes ⟨way, hbefore, rfl⟩]
  · have hrest : rest <+: (Path.ofString i.path).names := (List.prefix_append_right_inj _).mp hway
    rw [Path.follow_append]
    by_cases hnil : rest = []
    · refine .inr ?_
      rw [hnil, Path.follow, ← Path.location, hdir.there]
      simp
    · exact .inl (hinside (fun hmem => hbelow.noParent (hrest.subset hmem)) hnil)

end Inside

/-- A run changes only places that are named by the paths of its instructions or belong to the log,
whatever comes of it: a single instruction as well as a batch. If the paths of the instructions stay
inside the project, these places are strictly inside the project or belong to the log. In a project
that is there, the relative paths stay inside that name something and do not go up. -/
theorem Batch.applyAll_confined (log : Option Log.Store) (context : Context)
    (is : List Instruction) (s : Site) :
    let ofLog (l : Location) : Prop := ∃ store, log = some store ∧ store.Owns s.disk l
    let inside (l : Location) : Prop := isBelow context.root.location l = true ∨ ofLog l
    let batch := ((applyAll log context is).outcome s).2.disk
    ChangesOnly (Batch.Reaches log context is s.disk) s.disk batch ∧
    ((∀ i ∈ is, i.StaysInside context s.disk) → ChangesOnly inside s.disk batch) ∧
    (∀ (i : Instruction) (index : Int),
      let single := ((i.apply log context index).outcome s).2.disk
      ChangesOnly (Batch.Reaches log context [i] s.disk) s.disk single ∧
      (i.StaysInside context s.disk → ChangesOnly inside s.disk single)) ∧
    (s.disk.isDirectory context.root = .ok true → ∀ i : Instruction,
      (Path.ofString i.path).NamesBelow → i.StaysInside context s.disk) := by
  intro ofLog inside batch
  have hinside {js : List Instruction} {d : Disk} (hjs : ∀ i ∈ js, i.StaysInside context s.disk)
      (h : ChangesOnly (Batch.Reaches log context js s.disk) s.disk d) :
      ChangesOnly inside s.disk d := by
    intro l
    rcases h l with hsame | ⟨i, hi, hnames⟩ | hlog
    · exact .inl hsame
    · exact .inr (.inl ((hjs i hi).isBelow_of_names hnames))
    · exact .inr (.inr hlog)
  have hbatch := applyAll_changesOnly log context is s
  refine ⟨hbatch, fun his => hinside his hbatch, fun i index => ?_, fun hroot i =>
    Instruction.staysInside_of_namesBelow hroot⟩
  have hsingle := apply_changesOnly log context (List.mem_singleton_self i) index s
  exact ⟨hsingle, fun hi => hinside (List.forall_mem_singleton.mpr hi) hsingle⟩

/-- A file that is made in a directory of the project that is missing, with a log beside the
project. -/
theorem Batch.applyAll_confined_of_create :
    let store : Log.Store := ⟨["logs"]⟩
    let context : Context := ⟨[], ["proj"], "shop", "auth", false⟩
    let i : Instruction := ⟨"src/a.txt", .createFile, some "x", none, none, none, none, none, none⟩
    let s : Site := ⟨⟨[(["proj"], .directory)]⟩, ⟨1000, 1⟩, []⟩
    let inside (l : Location) : Prop :=
      isBelow ["proj"] l = true ∨ ∃ store', some store = some store' ∧ store'.Owns s.disk l
    let batch := ((applyAll (some store) context [i]).outcome s).2.disk
    let single := ((i.apply (some store) context 0).outcome s).2.disk
    i.StaysInside context s.disk ∧ ChangesOnly inside s.disk batch ∧
      ChangesOnly inside s.disk single ∧
      batch.entry? ["proj", "src", "a.txt"] = some (.file [120]) := by
  intro store context i s inside batch single
  obtain ⟨-, hbatch, hsingle, hinside⟩ := Batch.applyAll_confined (some store) context [i] s
  have hstays : i.StaysInside context s.disk :=
    hinside (by decide +kernel) i ⟨by decide, by decide, by decide⟩
  refine ⟨hstays, hbatch (List.forall_mem_singleton.mpr hstays), (hsingle i 0).2 hstays, ?_⟩
  decide +kernel

/-- Nothing keeps an instruction inside the project: its path can lead to a file beside the project,
a project that is missing is made with all directories above it, and records are kept where the log
is. -/
theorem Batch.not_apply_confined :
    let context (root : Path) : Context := ⟨[], root, "shop", "auth", false⟩
    let remove : Instruction :=
      ⟨"../keep.txt", .deleteFile, none, none, none, none, none, none, none⟩
    let create : Instruction :=
      ⟨"a.txt", .createFile, some "x", none, none, none, none, none, none⟩
    let d : Disk := ⟨[(["proj"], .directory), (["keep.txt"], .file [107])]⟩
    let s : Site := ⟨d, ⟨1000, 1⟩, []⟩
    let inside (root : Path) (l : Location) : Prop := isBelow root.location l = true
    let after (log : Option Log.Store) (root : Path) (i : Instruction) : Disk :=
      ((i.apply log (context root) 0).outcome s).2.disk
    ¬ChangesOnly (inside ["proj"]) d (after none ["proj"] remove) ∧
      ¬ChangesOnly (inside ["out", "proj"]) d (after none ["out", "proj"] create) ∧
      ¬ChangesOnly (inside ["proj"]) d (after (some ⟨["logs"]⟩) ["proj"] create) := by
  intro context remove create d s inside after
  refine ⟨fun h => ?_, fun h => ?_, fun h => ?_⟩
  · exact absurd (h ["keep.txt"]) (by decide +kernel)
  · exact absurd (h ["out"]) (by decide +kernel)
  · exact absurd (h ["logs"]) (by decide +kernel)

end Scaffold
