import Scaffold.Install
import Scaffold.Proofs.InstructionFrame

/-!
# What a run leaves of the disk

A run is made of instructions, and between them it only reads, prints and counts. A relation between
disks that can be chained therefore holds over a batch, and over the installation of a list of
modules, as soon as it holds over each instruction. It does not matter how the run ends. The first
such relation is that directories stay where they are.
-/

namespace Scaffold

namespace Job

variable {α β : Type} {R : Disk → Disk → Prop}

/-- A job that leaves a disk which stands in a relation to the one that it begins with, however it
ends. -/
def Relates (R : Disk → Disk → Prop) (j : Job α) : Prop :=
  ∀ s : Site, R s.disk (j.outcome s).2.disk

lemma relates_pure (hrefl : ∀ d, R d d) (a : α) : Relates R (pure a) := fun s => hrefl s.disk

lemma relates_print (hrefl : ∀ d, R d d) (lines : List Console.Printed) :
    Relates R (print lines) := fun s => hrefl s.disk

lemma relates_onDisk {f : Disk → Except Failure α × Disk} (h : ∀ d, R d (f d).2) :
    Relates R (onDisk f) := fun s => h s.disk

lemma relates_bind (htrans : ∀ d₁ d₂ d₃, R d₁ d₂ → R d₂ d₃ → R d₁ d₃) {j : Job α} {f : α → Job β}
    (hj : Relates R j) (hf : ∀ a, Relates R (f a)) : Relates R (j >>= f) := by
  intro s
  have hfirst := hj s
  rcases hout : j.outcome s with ⟨e | a, s'⟩
  · rw [hout] at hfirst
    rw [outcome_bind_of_error hout]
    exact hfirst
  · rw [hout] at hfirst
    rw [outcome_bind_of_ok hout]
    exact htrans _ _ _ hfirst (hf a s')

lemma relates_catching {j : Job α} (h : Relates R j) (isCaught : Failure → Bool) :
    Relates R (catching isCaught j) := by
  intro s
  have hj := h s
  rcases hout : j.outcome s with ⟨e | a, s'⟩
  · rw [hout] at hj
    rw [outcome_catching_of_error isCaught hout]
    cases isCaught e <;> exact hj
  · rw [hout] at hj
    rw [outcome_catching_of_ok isCaught hout]
    exact hj

end Job

/-! ### Runs -/

section Run

variable {R : Disk → Disk → Prop} (hrefl : ∀ d, R d d)
  (htrans : ∀ d₁ d₂ d₃, R d₁ d₂ → R d₂ d₃ → R d₁ d₃)

include hrefl htrans

/-- A relation over every instruction of a batch is one over the batch. -/
theorem relates_applyFrom {log : Option Log.Store} {context : Context} {is : List Instruction}
    (h : ∀ i ∈ is, ∀ index, (i.apply log context index).Relates R) (index : Nat) :
    (applyFrom log context index is).Relates R := by
  induction is generalizing index with
  | nil => exact Job.relates_pure hrefl []
  | cons i rest ih =>
    obtain ⟨hi, hrest⟩ := List.forall_mem_cons.mp h
    refine Job.relates_bind htrans (Job.relates_catching (hi index) _) fun result => ?_
    refine Job.relates_bind htrans (Job.relates_print hrefl _) fun _ => ?_
    exact Job.relates_bind htrans (ih hrest _) fun later => Job.relates_pure hrefl _

lemma relates_applyAll {log : Option Log.Store} {context : Context} {is : List Instruction}
    (h : ∀ i ∈ is, ∀ index, (i.apply log context index).Relates R) :
    (applyAll log context is).Relates R :=
  Job.relates_bind htrans (relates_applyFrom hrefl htrans h 0) fun _ => Job.relates_pure hrefl _

lemma relates_installModule {x : Installation} {m : Module}
    (h : ∀ (i : Instruction) index, (i.apply (some x.log) (x.context m) index).Relates R) :
    (x.installModule m).Relates R := by
  refine Job.relates_bind htrans (Job.relates_print hrefl _) fun _ => ?_
  have hload : (Job.onDisk fun d =>
      (ModuleInstructions.load x.room x.project.root m d, d)).Relates R := Job.relates_onDisk hrefl
  refine Job.relates_bind htrans (Job.relates_catching hload _) fun catalog => ?_
  cases catalog with
  | error e =>
    exact Job.relates_bind htrans (Job.relates_print hrefl _) fun _ => Job.relates_pure hrefl _
  | ok catalog =>
    refine Job.relates_bind htrans (relates_applyAll hrefl htrans fun i _ => h i) fun summary => ?_
    exact Job.relates_bind htrans (Job.relates_print hrefl _) fun _ => Job.relates_pure hrefl _

/-- A relation over every instruction is one over the installation of modules. -/
theorem relates_installModules {x : Installation}
    (h : ∀ m (i : Instruction) index, (i.apply (some x.log) (x.context m) index).Relates R)
    (ms : List Module) : (x.installModules ms).Relates R := by
  induction ms with
  | nil => exact Job.relates_pure hrefl []
  | cons m rest ih =>
    refine Job.relates_bind htrans (relates_installModule hrefl htrans (h m)) fun report => ?_
    exact Job.relates_bind htrans ih fun later => Job.relates_pure hrefl _

end Run

/-! ### Directories stay -/

/-- Every directory of a disk is one on another disk. -/
def Disk.KeepsDirectories (d d' : Disk) : Prop :=
  ∀ l, d.entry? l = some .directory → d'.entry? l = some .directory

lemma Disk.KeepsDirectories.trans {d₁ d₂ d₃ : Disk} (h₁ : d₁.KeepsDirectories d₂)
    (h₂ : d₂.KeepsDirectories d₃) : d₁.KeepsDirectories d₃ := fun l hl => h₂ l (h₁ l hl)

lemma keepsDirectories_attempt (context : Context) (i : Instruction) (d : Disk) :
    d.KeepsDirectories (i.attempt context d).2 := by
  intro l hl
  rcases attempt_entry?_cases (x := (i.attempt context d).1) rfl l with hsame | ⟨-, hentry⟩ | hmade
  · exact hsame.trans hl
  · exact absurd hl hentry
  · exact hmade.made

lemma keepsDirectories_save (store : Log.Store) {r : Log.Record}
    (h : ∀ c ∈ r.hash.toList, Log.IsHexDigit c) (d : Disk) :
    d.KeepsDirectories (store.save r d).2 := by
  intro l hl
  rcases Log.save_entry?_cases store r d h l with hsame | hmade | ⟨-, hentry, -⟩
  · exact hsame.trans hl
  · exact hmade.made
  · exact absurd hl hentry

lemma keepsDirectories_apply (log : Option Log.Store) (context : Context) (index : Int)
    (i : Instruction) : (i.apply log context index).Relates Disk.KeepsDirectories := by
  intro s
  rcases hrun : (i.apply log context index).outcome s with ⟨result, s'⟩
  obtain ⟨x, d, hattempt, hdisk, -⟩ := outcome_apply_cases hrun
  have hkept := keepsDirectories_attempt context i s.disk
  rw [hattempt] at hkept
  rcases hdisk with hdisk | ⟨store, r, -, hhash, hdisk⟩
  · rw [hdisk]
    exact hkept
  · rw [hdisk]
    exact hkept.trans (keepsDirectories_save store (Log.isHexDigit_of_hash_eq hhash) d)

/-- No installation of modules removes a directory. -/
theorem keepsDirectories_installModules (x : Installation) (ms : List Module) :
    (x.installModules ms).Relates Disk.KeepsDirectories :=
  relates_installModules (fun _ _ hl => hl) (fun _ _ _ h₁ h₂ => h₁.trans h₂)
    (fun m i index => keepsDirectories_apply (some x.log) (x.context m) index i) ms

/-! ### The places of a log -/

/-- The places of a log on a disk: on the way to its directory those where no directory is yet, and
everything directly in its directory. -/
def Log.Store.Owns (store : Log.Store) (d : Disk) (l : Location) : Prop :=
  (d.entry? l ≠ some .directory ∧ store.directory.Passes l) ∨
    ∃ name, l = store.directory.location ++ [name]

instance (store : Log.Store) (d : Disk) : DecidablePred (store.Owns d) := fun l =>
  decidable_of_iff
    ((d.entry? l ≠ some .directory ∧ store.directory.Passes l) ∨
      ∃ name ∈ l, l = store.directory.location ++ [name])
    (by
      refine or_congr Iff.rfl ⟨fun ⟨name, _, hl⟩ => ⟨name, hl⟩, ?_⟩
      rintro ⟨name, rfl⟩
      exact ⟨name, by simp, rfl⟩)

/-- Saving a record changes only places of the log, also those that it had on an earlier disk. -/
lemma save_changesOnly {store : Log.Store} {r : Log.Record}
    (h : ∀ c ∈ r.hash.toList, Log.IsHexDigit c) {d₀ d : Disk} (hkept : d₀.KeepsDirectories d) :
    Disk.ChangesOnly (store.Owns d₀) d (store.save r d).2 := by
  intro l
  rcases Log.save_entry?_cases store r d h l with hsame | hmade | ⟨hl, -, -⟩
  · exact .inl hsame
  · refine .inr (.inl ⟨fun hdir => ?_, hmade.onTheWay⟩)
    exact absurd ((hkept l hdir).symm.trans hmade.missing) (by simp)
  · exact .inr (.inr ⟨_, hl⟩)

end Scaffold
