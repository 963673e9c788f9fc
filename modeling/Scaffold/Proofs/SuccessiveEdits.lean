import Scaffold.Proofs.BatchContainment
import Scaffold.Proofs.ReadableFile
import Scaffold.Proofs.RunFrame
import Scaffold.Proofs.StoredForms

/-!
# Edits of one file after one another

What an edit has written is what the next one reads, with a line feed for every line end, as long as
the log does not keep a record in the file itself. So a batch of edits of one file comes to the
composition of the edits on its text, whatever becomes of the records.
-/

namespace Scaffold

open Text

/-! ### Reading back -/

namespace Disk

variable {d d' : Disk} {p : Path} {t : List Char}

/-- A file that can be read is read as the same where its bytes and all directories are kept. -/
lemma readText_of_kept (h : d.readText p = .ok t) (hkept : d.KeepsDirectories d')
    (hentry : d'.entry? p.location = d.entry? p.location) : d'.readText p = .ok t := by
  obtain ⟨bytes, hfind⟩ := find?_of_readText h
  obtain ⟨hlocate, hfile⟩ := find?_eq_some_iff.mp hfind
  have hfind' : d'.find? p = .ok (some (.file bytes)) :=
    find?_eq_some_iff.mpr ⟨locate_mono hkept hlocate, hentry ▸ hfile⟩
  rw [readText_of_find? hfind']
  rwa [readText_of_find? hfind] at h

lemma readText_of_saveText (h : d.saveText p t = (.ok (), d')) :
    d'.readText p = .ok (unifyLineEnds t) := by
  rw [saveText] at h
  rcases hmake : d.makeDirectories p.parent with ⟨e | u, d₁⟩
  · rw [hmake] at h
    cases h
  · rw [hmake] at h
    cases hwrite : d₁.writeText p t with
    | error e =>
      simp only [hwrite] at h
      cases h
    | ok d₂ =>
      simp only [hwrite] at h
      obtain rfl := (Prod.mk.inj h).2
      obtain rfl : d.withParent p = d₁ := congrArg Prod.snd hmake
      have hsave := canSave_of_writeText hmake hwrite
      obtain rfl := Except.ok.inj ((hsave.writeText_eq t).symm.trans hwrite)
      exact hsave.readText_saved t

lemma readText_edited (h : d.readText p = .ok t) (t' : Option (List Char)) :
    (d.edited p t').readText p = .ok (t'.elim t unifyLineEnds) := by
  cases t' with
  | none => exact h
  | some t' => exact readText_of_saveText (saveText_of_readText h t')

end Disk

section Apply

variable {log : Option Log.Store} {context : Context} {i : Instruction} {s s' : Site}
  {result : Result} {p : Path} {t : List Char}

/-- What an attempt leaves in a file is there after the instruction has been carried out. The record
of the attempt must not be kept in that file. -/
lemma readText_of_attempt {index : Int}
    (h : (i.apply log context index).outcome s = (result, s')) {x : Except Unwritable Attempt}
    {d : Disk} (hattempt : i.attempt context s.disk = (x, d)) (hread : d.readText p = .ok t)
    (hlog : ∀ store, log = some store → p.location ≠ store.directory.location ++
      [Log.hashOf context.project context.module index s.clock.now ++ ".json"]) :
    s'.disk.readText p = .ok t := by
  obtain ⟨x', d', hattempt', hdisk, -⟩ := outcome_apply_cases h
  obtain ⟨rfl, rfl⟩ := Prod.mk.inj (hattempt.symm.trans hattempt')
  rcases hdisk with hdisk | ⟨store, record, hstore, hhash, hdisk⟩
  · rw [hdisk, hread]
  · have hhex := Log.isHexDigit_of_hash_eq hhash
    obtain ⟨bytes, -, hfile, -, -⟩ := Disk.readText_eq_ok hread
    have hkept := keepsDirectories_save store hhex d
    have hsave := Log.save_entry?_cases store record d hhex p.location
    rw [← hdisk] at hkept hsave
    rcases hsave with hsame | hmade | ⟨hrecord, -, -⟩
    · exact Disk.readText_of_kept hread hkept hsame
    · exact absurd (hfile.symm.trans hmade.missing) (by simp)
    · exact absurd (hhash ▸ hrecord) (hlog store hstore)

end Apply

/-! ### One edit after another -/

/-- The text that is read after an instruction has edited a text. -/
def Instruction.textAfter (t : List Char) (i : Instruction) : List Char :=
  match i.change with
  | .edit f => (f t).elim t unifyLineEnds
  | _ => t

/-- An instruction that edits the file at a path, and that neither a guard nor a missing field holds
back. -/
structure Instruction.EditsAt (context : Context) (q : Path) (i : Instruction) : Prop where
  unguarded : i.condition = none
  complete : i.lacking = []
  path : context.resolve i.path = q
  isEdit : ∃ f, i.change = .edit f

section Run

variable {log : Option Log.Store} {context : Context} {q : Path} {t : List Char}

/-- No record that the log can keep for the instructions of a context is kept in the file at a
path. -/
def Log.KeepsClear (log : Option Log.Store) (context : Context) (q : Path) : Prop :=
  ∀ store, log = some store → ∀ index time, q.location ≠ store.directory.location ++
    [Log.hashOf context.project context.module index time ++ ".json"]

variable (hclear : Log.KeepsClear log context q)
  (hnull : ∀ store, log = some store → Disk.hasNull store.directory = false)

include hclear hnull

/-- A batch goes on after an edit of a file that can be read, which can be read then too. -/
lemma apply_of_editsAt {i : Instruction} {index : Nat} {s s' : Site} {result : Result}
    (h : (i.apply log context index).outcome s = (result, s')) (hi : i.EditsAt context q)
    (hread : s.disk.readText q = .ok t) :
    result.isSettled = true ∧ s'.disk.readText q = .ok (i.textAfter t) := by
  obtain ⟨hguard, hlacking, rfl, f, hf⟩ := hi
  constructor
  · obtain rfl : ((i.apply log context index).outcome s).1 = result := congrArg Prod.fst h
    rw [← Bool.not_eq_false, isSettled_apply_eq_false_iff]
    rintro (⟨g, hg, -⟩ | ⟨-, -, hstopped⟩ | ⟨store, hstore, hstored⟩)
    · rw [hguard] at hg
      cases hg
    · rw [hf] at hstopped
      exact Disk.not_tooLong_of_map_find? (Disk.holds_of_readText hread) hstopped
    · rw [hnull store hstore] at hstored
      cases hstored
  · have hedits := Instruction.edits_of_readText hf hread
    have hjudge : i.judge context s.disk = .ok none := by rw [Instruction.judge, hguard]
    refine readText_of_attempt h (hedits.attempt none hlacking hjudge rfl) ?_ fun store hstore =>
      hclear store hstore index s.clock.now
    rw [Disk.readText_edited hread, Instruction.textAfter, hf]

/-- A batch of edits of one file comes to its results, and the file is then read as what the edits
make of its text one after another. -/
theorem applyFrom_of_editsAt {is : List Instruction} (his : ∀ i ∈ is, i.EditsAt context q)
    (index : Nat) {s : Site} (hread : s.disk.readText q = .ok t) :
    ∃ results s', (applyFrom log context index is).outcome s = (.ok results, s') ∧
      s'.disk.readText q = .ok (is.foldl Instruction.textAfter t) := by
  induction is generalizing index s t with
  | nil => exact ⟨[], s, rfl, hread⟩
  | cons i rest ih =>
    obtain ⟨hi, hrest⟩ := List.forall_mem_cons.mp his
    rcases hrun : (i.apply log context index).outcome s with ⟨result, s₁⟩
    obtain ⟨hsettled, hread₁⟩ := apply_of_editsAt hclear hnull hrun hi hread
    have hstep := Batch.outcome_step_of_settled log context hrun hsettled
    -- what is printed about the first instruction is not on the disk that the others begin with
    obtain ⟨later, s', hlater, hread'⟩ := ih hrest (index + 1)
      (s := { s₁ with
        printed := s₁.printed ++ Result.printed context.verbose (i.label index) result }) hread₁
    refine ⟨result :: later, s', ?_, hread'⟩
    rw [Batch.applyFrom_cons, Job.outcome_bind_of_ok hstep, Job.outcome_bind_of_ok hlater]
    rfl

end Run

end Scaffold
