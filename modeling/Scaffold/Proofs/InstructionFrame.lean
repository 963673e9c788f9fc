import Scaffold.Proofs.AttemptOutcome
import Scaffold.Proofs.DiskEntries

/-!
# What an instruction leaves alone

An instruction changes one file and makes directories above it, and its record is one file in the
directory of the log. The change is followed through the disk once for every way in which an attempt
can end; what the project keeps when the instruction is passed over or fails is read off from that.
-/

namespace Scaffold

open Disk

/-! ### Changes -/

/-- The disk has not changed but for the entry that a path names, which is no directory, and for
directories that were missing above it. -/
def Disk.Touches (p : Path) (d d' : Disk) : Prop :=
  ∃ d₁, Grows p.parent d d₁ ∧ d₁.entry? p.location ≠ some .directory ∧
    ∀ l, l ≠ p.location → d'.entry? l = d₁.entry? l

section Change

variable {p : Path} {d d' : Disk}

lemma Disk.Touches.entry? (h : Touches p d d') (l : Location) :
    d'.entry? l = d.entry? l ∨ (l = p.location ∧ d.entry? l ≠ some .directory) ∨
      IsMade p.parent d d' l := by
  obtain ⟨d₁, hgrows, hentry, hsame⟩ := h
  by_cases hl : l = p.location
  · subst hl
    exact .inr (.inl ⟨rfl, fun hdir => hentry (hgrows.entry?_eq_of_some hdir)⟩)
  · rcases hgrows l with hkept | hmade
    · exact .inl ((hsame l hl).trans hkept)
    · exact .inr (.inr ⟨hmade.missing, (hsame l hl).trans hmade.made, hmade.onTheWay⟩)

lemma touches_write {t : List Char} {changed : Bool}
    (h : Change.write p t d = (.ok changed, d')) : changed = true ∧ Touches p d d' := by
  rw [Change.write] at h
  rcases saveText_cases d p t with ⟨e, d₁, hsave, -⟩ | ⟨d₁, hsave, hgrows, hentry⟩
  · rw [hsave] at h
    cases e <;> cases h
  · rw [hsave] at h
    obtain ⟨hchanged, rfl⟩ := Prod.mk.inj h
    refine ⟨(Except.ok.inj hchanged).symm, d₁, hgrows, hentry, fun l hl => ?_⟩
    rw [entry?_put (ne_nil_of_entry?_ne hentry), if_neg (Ne.symm hl)]

lemma grows_write {t : List Char} {fault : ChangeFault}
    (h : Change.write p t d = (.error fault, d')) : Grows p.parent d d' := by
  rw [Change.write] at h
  rcases saveText_cases d p t with ⟨e, d₁, hsave, hgrows⟩ | ⟨d₁, hsave, -, -⟩
  · rw [hsave] at h
    have hd : d₁ = d' := by cases e <;> exact (Prod.mk.inj h).2
    exact hd ▸ hgrows
  · rw [hsave] at h
    cases h

lemma touches_remove (h : Change.remove p d = (.ok true, d')) : Touches p d d' := by
  rw [Change.remove] at h
  split at h
  · cases h
  · cases h
  · split at h
    · cases h
    · next d₁ hremove =>
      obtain rfl := (Prod.mk.inj h).2
      obtain ⟨⟨bytes, hentry⟩, rfl⟩ := removeFile_eq_ok hremove
      refine ⟨d, Grows.refl _ _, by simp [hentry], fun l hl => ?_⟩
      by_cases hnil : l = []
      · rw [hnil, entry?_nil, entry?_nil]
      · rw [entry?_without _ hnil, if_neg (by simpa using hl)]

lemma eq_of_remove {x : Except ChangeFault Bool} (h : Change.remove p d = (x, d'))
    (hx : x ≠ .ok true) : d' = d := by
  rw [Change.remove] at h
  split at h
  · exact (Prod.mk.inj h).2.symm
  · exact (Prod.mk.inj h).2.symm
  · split at h
    · exact (Prod.mk.inj h).2.symm
    · exact absurd (Prod.mk.inj h).1.symm hx

/-- What a change that has been made, found nothing to do, or was not made, leaves of the disk. -/
theorem Change.apply_leaves (c : Change) (p : Path) (d : Disk) :
    match c.apply p d with
    | (.ok true, d') => Touches p d d'
    | (.ok false, d') => d' = d
    | (.error _, d') => Grows p.parent d d' := by
  unfold Change.apply
  cases c with
  | create content =>
    dsimp only
    rcases hwrite : Change.write p content d with ⟨fault | changed, d'⟩
    · exact grows_write hwrite
    · obtain ⟨rfl, htouches⟩ := touches_write hwrite
      exact htouches
  | delete =>
    dsimp only
    rcases hremove : Change.remove p d with ⟨fault | changed, d'⟩
    · obtain rfl := eq_of_remove hremove (by simp)
      exact Grows.refl _ _
    · cases changed with
      | false => exact eq_of_remove hremove (by simp)
      | true => exact touches_remove hremove
  | edit f =>
    dsimp only
    cases Change.read p d with
    | error fault => exact Grows.refl _ _
    | ok t =>
      dsimp only
      cases f t with
      | none => rfl
      | some t =>
        dsimp only
        rcases hwrite : Change.write p t d with ⟨fault | changed, d'⟩
        · exact grows_write hwrite
        · obtain ⟨rfl, htouches⟩ := touches_write hwrite
          exact htouches

end Change

/-! ### Attempts -/

/-- What an attempt leaves of the disk, by the way in which it ends. -/
def Ending.Leaves (p : Path) (d d' : Disk) : Ending → Prop
  | .skipped => d' = d
  | .executed false => d' = d
  | .executed true => Touches p d d'
  | .failed _ => Grows p.parent d d'
  | .stopped _ => Grows p.parent d d'

section Attempt

variable {context : Context} {i : Instruction} {d d' : Disk}

lemma Ending.Leaves.entry? {p : Path} {e : Ending} (h : e.Leaves p d d') (l : Location) :
    d'.entry? l = d.entry? l ∨ (l = p.location ∧ d.entry? l ≠ some .directory) ∨
      IsMade p.parent d d' l := by
  cases e with
  | skipped => exact .inl (congrArg (Disk.entry? · l) h)
  | executed changed =>
    cases changed with
    | false => exact .inl (congrArg (Disk.entry? · l) h)
    | true => exact Touches.entry? h l
  | failed cause => exact (h l).imp_right .inr
  | stopped e => exact (h l).imp_right .inr

lemma leaves_tryChange :
    (i.tryChange context d).1.Leaves (context.resolve i.path) d (i.tryChange context d).2 := by
  rw [Instruction.tryChange]
  cases i.lacking with
  | cons field fields => exact Grows.refl _ _
  | nil =>
    have hleaves := i.change.apply_leaves (context.resolve i.path) d
    dsimp only
    rcases hchange : i.change.apply (context.resolve i.path) d with ⟨(cause | e) | changed, d'⟩
    · rw [hchange] at hleaves
      exact hleaves
    · rw [hchange] at hleaves
      exact hleaves
    · rw [hchange] at hleaves
      cases changed with
      | false => exact hleaves
      | true => exact hleaves

theorem Instruction.attempt_leaves {a : Attempt} (h : i.attempt context d = (.ok a, d')) :
    a.ending.Leaves (context.resolve i.path) d d' := by
  rcases (attempt_eq_ok h).2 with ⟨-, hskipped, rfl⟩ | ⟨-, htried⟩
  · rw [hskipped]
    rfl
  · have hleaves : (i.tryChange context d).1.Leaves (context.resolve i.path) d
        (i.tryChange context d).2 := leaves_tryChange
    rwa [htried] at hleaves

lemma eq_of_attempt_error {e : Text.Unwritable} (h : i.attempt context d = (.error e, d')) :
    d' = d := by
  rw [Instruction.attempt] at h
  split at h
  · exact (Prod.mk.inj h).2.symm
  · split at h <;> cases h

lemma attempt_entry?_cases {x : Except Text.Unwritable Attempt} (h : i.attempt context d = (x, d'))
    (l : Location) :
    d'.entry? l = d.entry? l ∨
      (l = (context.resolve i.path).location ∧ d.entry? l ≠ some .directory) ∨
      IsMade (context.resolve i.path).parent d d' l := by
  cases x with
  | error e => exact .inl (eq_of_attempt_error h ▸ rfl)
  | ok a => exact Ending.Leaves.entry? (i.attempt_leaves h) l

end Attempt

/-! ### Records -/

namespace Log

/-- Saving a record makes the directories of the store that are missing. The record is then in its
file, or nothing else has changed. -/
theorem save_leaves (store : Store) (r : Record) (d : Disk) :
    ∃ d₁, Grows store.directory d d₁ ∧
      ((store.save r d).2 = d₁ ∨
        (Disk.entry? d₁ (store.pathOf r.hash).location ≠ some .directory ∧
          (store.save r d).2 =
            d₁.put (store.pathOf r.hash).location
              (.file (Text.Utf8.encode (Store.fileText r))))) := by
  have hgrows := grows_makeDirectories d store.directory
  unfold Store.save
  dsimp only
  rcases hmake : d.makeDirectories store.directory with ⟨e | u, d₁⟩
  · rw [hmake] at hgrows
    exact ⟨d₁, hgrows, .inl rfl⟩
  · rw [hmake] at hgrows
    refine ⟨d₁, hgrows, ?_⟩
    dsimp only
    split
    · exact .inl rfl
    · split
      · exact .inl rfl
      · next d' hwrite =>
        obtain ⟨hentry, rfl⟩ := writeText_eq_ok hwrite
        exact .inr ⟨hentry, rfl⟩

/-- A log is outside a project if the way to its directory passes no place in the project. -/
def Store.IsOutside (store : Store) (root : Path) : Prop :=
  ∀ l, store.directory.Passes l → ¬ root.location <+: l

/-- The file of a record lies directly in the directory of the store. -/
lemma location_pathOf (store : Store) {hash : String} (h : ∀ c ∈ hash.toList, IsHexDigit c) :
    (store.pathOf hash).location = store.directory.location ++ [hash ++ ".json"] := by
  have hname : hash ++ ".json" ≠ ".." := by
    intro heq
    have hlength : (hash ++ ".json").length = hash.length + 5 := by
      rw [String.length_append]
      rfl
    rw [heq, show "..".length = 2 from rfl] at hlength
    omega
  rw [pathOf_eq store h, Path.location_child, if_neg hname]

/-- Where the directory of a log is written without going up, it is enough that it does not lie in
the project. -/
lemma Store.isOutside_iff {store : Store} {root : Path} (h : ".." ∉ store.directory.names) :
    store.IsOutside root ↔ ¬ root.location <+: store.directory.location := by
  constructor
  · intro hout
    exact hout _ (Path.passes_location _)
  · rintro hout l ⟨way, ⟨rest, hrest⟩, rfl⟩ hl
    rw [← hrest, List.mem_append, not_or] at h
    have hbelow : store.directory.location = Path.follow [] way ++ rest := by
      rw [Path.location, ← hrest, Path.follow_append, Path.follow_of_not_mem h.2]
    exact hout (hbelow ▸ hl.trans (List.prefix_append _ _))

/-- Saving a record under a generated hash changes no entry but those of the directories that it
makes and of its file. -/
lemma save_entry?_cases (store : Store) (r : Record) (d : Disk)
    (h : ∀ c ∈ r.hash.toList, IsHexDigit c) (l : Location) :
    Disk.entry? (store.save r d).2 l = d.entry? l ∨ IsMade store.directory d (store.save r d).2 l ∨
      (l = store.directory.location ++ [r.hash ++ ".json"] ∧ d.entry? l ≠ some .directory ∧
        ∃ bytes, Disk.entry? (store.save r d).2 l = some (.file bytes)) := by
  obtain ⟨d₁, hgrows, hsave | ⟨hentry, hsave⟩⟩ := save_leaves store r d
  · rw [hsave]
    exact (hgrows l).imp_right .inl
  · rw [location_pathOf store h] at hentry hsave
    have hput := entry?_put (d := d₁) (ne_nil_of_entry?_ne hentry)
      (.file (Text.Utf8.encode (Store.fileText r))) l
    rw [← hsave] at hput
    by_cases hl : store.directory.location ++ [r.hash ++ ".json"] = l
    · subst hl
      rw [if_pos rfl] at hput
      exact .inr (.inr ⟨rfl, fun hdir => hentry (hgrows.entry?_eq_of_some hdir), _, hput⟩)
    · rw [if_neg hl] at hput
      rw [hput]
      exact (hgrows l).imp_right fun hmade =>
        .inl ⟨hmade.missing, hput.trans hmade.made, hmade.onTheWay⟩

/-- Saving a record outside a project leaves the project as it is. -/
lemma save_entry?_of_isOutside {store : Store} {root : Path} (hout : store.IsOutside root)
    {r : Record} (h : ∀ c ∈ r.hash.toList, IsHexDigit c) {d : Disk}
    (hroot : d.entry? root.location = some .directory) {l : Location} (hl : root.location <+: l) :
    Disk.entry? (store.save r d).2 l = d.entry? l := by
  rcases save_entry?_cases store r d h l with hsame | hmade | ⟨rfl, hentry, -⟩
  · exact hsame
  · exact absurd hl (hout l hmade.onTheWay)
  · rcases List.prefix_concat_iff.mp hl with hself | hbelow
    · exact absurd (hself ▸ hroot) hentry
    · exact absurd hbelow (hout _ (Path.passes_location _))

/-- Noting an attempt does nothing to the disk but save a record under the hash of the attempt. It
does not fail for the instruction. -/
lemma outcome_note_cases (log : Option Store) (context : Context) (index : Int) (i : Instruction)
    (guard : Option GroupVerdict) (status : Status) (error : Option String) (s : Site) :
    let out := (note log context index i guard status error).outcome s
    (out.2.disk = s.disk ∨ ∃ store r, log = some store ∧
      r.hash = hashOf context.project context.module index s.clock.now ∧
      out.2.disk = (store.save r s.disk).2) ∧
    ∀ action path cause, out.1 ≠ .error (.instruction action path cause) := by
  cases log with
  | none => exact ⟨.inl rfl, by rintro _ _ _ ⟨⟩⟩
  | some store =>
    simp only [note, Job.outcome_bind, Job.outcome_time, Job.outcome_ofExcept,
      Job.outcome_onDisk, Record.ofAttempt, Record.create]
    by_cases hindex : index < 0
    · rw [if_pos hindex]
      exact ⟨.inl rfl, by rintro _ _ _ ⟨⟩⟩
    · rw [if_neg hindex]
      simp only [Schema.Checked.orFail]
      generalize hr : Record.mk _ _ _ _ _ _ _ _ _ = r
      have herror := @save_error store r s.disk
      rcases hsave : store.save r s.disk with ⟨e | p, d⟩
      · refine ⟨.inr ⟨store, r, rfl, by rw [← hr], by rw [hsave]⟩, ?_⟩
        rintro action path cause h
        rw [hsave] at herror
        rcases herror rfl with ⟨rfl, -⟩ | ⟨rfl, -⟩ | ⟨fault, rfl⟩ <;> cases h
      · exact ⟨.inr ⟨store, r, rfl, by rw [← hr], by rw [hsave]; rfl⟩, by rintro _ _ _ ⟨⟩⟩

end Log

/-! ### Instructions -/

section Instruction

variable {log : Option Log.Store} {context : Context} {index : Int} {i : Instruction} {s s' : Site}
  {result : Result}

/-- After the attempt, carrying out an instruction does nothing to the disk but note the attempt.
What it comes to is what the attempt comes to, unless there is no attempt or the note fails. -/
lemma outcome_apply_cases (h : (i.apply log context index).outcome s = (result, s')) :
    ∃ x d, i.attempt context s.disk = (x, d) ∧
      (s'.disk = d ∨ ∃ store r, log = some store ∧
        r.hash = Log.hashOf context.project context.module index s.clock.now ∧
        s'.disk = (store.save r d).2) ∧
      ((∃ a hash, x = .ok a ∧ result = a.result i hash) ∨
        ∃ e, result = .error e ∧ ∀ action path cause, e ≠ .instruction action path cause) := by
  rw [apply_eq, Job.outcome_bind, Job.outcome_onDisk] at h
  rcases hattempt : i.attempt context s.disk with ⟨e | a, d⟩
  · rw [hattempt] at h
    obtain ⟨rfl, rfl⟩ := Prod.mk.inj h
    exact ⟨_, d, rfl, .inl rfl, .inr ⟨_, rfl, by rintro _ _ _ ⟨⟩⟩⟩
  refine ⟨.ok a, d, rfl, ?_⟩
  rw [hattempt] at h
  simp only [Except.mapError] at h
  cases hstopped : a.isStopped with
  | true =>
    rw [hstopped] at h
    obtain ⟨rfl, rfl⟩ := Prod.mk.inj h
    exact ⟨.inl rfl, .inl ⟨a, none, rfl, rfl⟩⟩
  | false =>
    have hnote := Log.outcome_note_cases log context index i a.guard (a.result i none).status
      (a.result i none).error? { s with disk := d }
    rw [hstopped, if_neg Bool.false_ne_true, Job.outcome_bind] at h
    rcases hout : (Log.note log context index i a.guard (a.result i none).status
      (a.result i none).error?).outcome { s with disk := d } with ⟨e | hash, s''⟩
    · rw [hout] at hnote h
      obtain ⟨rfl, rfl⟩ := Prod.mk.inj h
      refine ⟨hnote.1, .inr ⟨e, rfl, fun action path cause he => ?_⟩⟩
      exact hnote.2 action path cause (congrArg Except.error he)
    · rw [hout] at hnote h
      obtain ⟨rfl, rfl⟩ := Prod.mk.inj h
      exact ⟨hnote.1, .inl ⟨a, hash, rfl, rfl⟩⟩

/-- Carrying out an instruction changes nothing but the file of the instruction, missing directories
above it, missing directories of the log and one record in it. -/
lemma apply_entry?_cases (h : (i.apply log context index).outcome s = (result, s')) (l : Location) :
    s'.disk.entry? l = s.disk.entry? l ∨
      (l = (context.resolve i.path).location ∧ s.disk.entry? l ≠ some .directory) ∨
      IsMade (context.resolve i.path).parent s.disk s'.disk l ∨
      ∃ store, log = some store ∧
        (IsMade store.directory s.disk s'.disk l ∨
          (l = store.directory.location ++
              [Log.hashOf context.project context.module index s.clock.now ++ ".json"] ∧
            ∃ bytes, s'.disk.entry? l = some (.file bytes))) := by
  obtain ⟨x, d, hattempt, hdisk | ⟨store, r, hstore, hhash, hdisk⟩, -⟩ := outcome_apply_cases h
  · rw [hdisk]
    exact (attempt_entry?_cases hattempt l).imp_right (Or.imp_right .inl)
  have hsave := Log.save_entry?_cases store r d (Log.isHexDigit_of_hash_eq hhash) l
  rw [← hdisk, hhash] at hsave
  rcases hsave with hsame | hlog | ⟨hl, -, hfile⟩
  · rcases attempt_entry?_cases hattempt l with hkept | htarget | hmade
    · exact .inl (hsame.trans hkept)
    · exact .inr (.inl htarget)
    · exact .inr (.inr (.inl ⟨hmade.missing, hsame.trans hmade.made, hmade.onTheWay⟩))
  · rcases attempt_entry?_cases hattempt l with hkept | htarget | hmade
    · have hnew : IsMade store.directory s.disk s'.disk l :=
        ⟨hkept ▸ hlog.missing, hlog.made, hlog.onTheWay⟩
      exact .inr (.inr (.inr ⟨store, hstore, .inl hnew⟩))
    · exact .inr (.inl htarget)
    · exact absurd (hmade.made.symm.trans hlog.missing) (by simp)
  · exact .inr (.inr (.inr ⟨store, hstore, .inr ⟨hl, hfile⟩⟩))

section Outside

variable (h : (i.apply log context index).outcome s = (result, s'))
  (hroot : s.disk.entry? context.root.location = some .directory)
  (hout : ∀ store, log = some store → store.IsOutside context.root)

include h hroot hout

/-- If the log is kept outside the project, it is the attempt that has changed the project. -/
lemma exists_attempt_of_isOutside :
    ∃ x d, i.attempt context s.disk = (x, d) ∧
      (∀ l, context.root.location <+: l → s'.disk.entry? l = d.entry? l) ∧
      ((∃ a hash, x = .ok a ∧ result = a.result i hash) ∨
        ∃ e, result = .error e ∧ ∀ action path cause, e ≠ .instruction action path cause) := by
  obtain ⟨x, d, hattempt, hdisk, hresult⟩ := outcome_apply_cases h
  refine ⟨x, d, hattempt, fun l hl => ?_, hresult⟩
  have hkept : d.entry? context.root.location = some .directory := by
    rcases attempt_entry?_cases hattempt context.root.location with hsame | ⟨-, hentry⟩ | hmade
    · exact hsame.trans hroot
    · exact absurd hroot hentry
    · exact absurd (hroot.symm.trans hmade.missing) (by simp)
  rcases hdisk with hdisk | ⟨store, r, hstore, hhash, hdisk⟩
  · rw [hdisk]
  · rw [hdisk]
    exact Log.save_entry?_of_isOutside (hout store hstore) (Log.isHexDigit_of_hash_eq hhash) hkept hl

/-- An instruction that is passed over or finds nothing to do leaves the project as it is. -/
lemma apply_entry?_of_unchanged {r : Report} (hr : result = .ok r)
    (hnothing : r.outcome = .skipped ∨ r.changed = false) {l : Location}
    (hl : context.root.location <+: l) : s'.disk.entry? l = s.disk.entry? l := by
  obtain ⟨x, d, hattempt, hsame, ⟨a, hash, rfl, hresult⟩ | ⟨e, he, -⟩⟩ :=
    exists_attempt_of_isOutside h hroot hout
  · have hleaves := i.attempt_leaves hattempt
    rw [hsame l hl]
    suffices hd : d = s.disk by rw [hd]
    rw [hr, Attempt.result] at hresult
    split at hresult
    · next hending => rwa [hending] at hleaves
    · next changed hending =>
      obtain rfl := Except.ok.inj hresult
      obtain hskipped | rfl : Outcome.executed = .skipped ∨ changed = false := hnothing
      · cases hskipped
      · rwa [hending] at hleaves
    · cases hresult
    · cases hresult
  · rw [hr] at he
    cases he

/-- An instruction that fails adds nothing to the project but missing directories above its file. -/
lemma apply_entry?_of_failed {action : Action} {path : String} {cause : InstructionCause}
    (hfailed : result = .error (.instruction action path cause)) {l : Location}
    (hl : context.root.location <+: l) :
    s'.disk.entry? l = s.disk.entry? l ∨
      IsMade (context.resolve i.path).parent s.disk s'.disk l := by
  obtain ⟨x, d, hattempt, hsame, ⟨a, hash, rfl, hresult⟩ | ⟨e, he, hother⟩⟩ :=
    exists_attempt_of_isOutside h hroot hout
  · have hleaves := i.attempt_leaves hattempt
    have hgrows : Grows (context.resolve i.path).parent s.disk d := by
      rw [hfailed, Attempt.result] at hresult
      split at hresult
      · cases hresult
      · cases hresult
      · next hending => rwa [hending] at hleaves
      · cases hresult
    rcases hgrows l with hkept | hmade
    · exact .inl ((hsame l hl).trans hkept)
    · exact .inr ⟨hmade.missing, (hsame l hl).trans hmade.made, hmade.onTheWay⟩
  · rw [hfailed] at he
    exact absurd (Except.error.inj he).symm (hother action path cause)

end Outside

end Instruction

/-- Carrying out an instruction changes nothing on the disk but the file of the instruction, missing
directories above it, missing directories of the log and one record in it, whatever comes of it. If
the log is kept outside the project, an instruction that is passed over or finds nothing to do
leaves the project as it is, and one that fails adds at most missing directories above its file. -/
theorem Instruction.apply_frame (log : Option Log.Store) (context : Context) (index : Int)
    (i : Instruction) (s : Site) :
    let p := context.resolve i.path
    let hash := Log.hashOf context.project context.module index s.clock.now
    let result := ((i.apply log context index).outcome s).1
    let after := ((i.apply log context index).outcome s).2.disk
    (∀ l, after.entry? l = s.disk.entry? l ∨
      (l = p.location ∧ s.disk.entry? l ≠ some .directory) ∨
      IsMade p.parent s.disk after l ∨
      ∃ store, log = some store ∧
        (IsMade store.directory s.disk after l ∨
          (l = store.directory.location ++ [hash ++ ".json"] ∧
            ∃ bytes, after.entry? l = some (.file bytes)))) ∧
    (s.disk.entry? context.root.location = some .directory →
      (∀ store, log = some store → store.IsOutside context.root) →
      (∀ r, result = .ok r → r.outcome = .skipped ∨ r.changed = false →
        ∀ l, context.root.location <+: l → after.entry? l = s.disk.entry? l) ∧
      ∀ action path cause, result = .error (.instruction action path cause) →
        ∀ l, context.root.location <+: l →
          after.entry? l = s.disk.entry? l ∨ IsMade p.parent s.disk after l) := by
  intro p hash result after
  have h : (i.apply log context index).outcome s = (result, _) := rfl
  refine ⟨apply_entry?_cases h, fun hroot hout => ⟨?_, ?_⟩⟩
  · intro r hr hnothing l hl
    exact apply_entry?_of_unchanged h hroot hout hr hnothing hl
  · intro action path cause hfailed l hl
    exact apply_entry?_of_failed h hroot hout hfailed hl

/-- An edit that finds nothing to do, with a log beside the project. -/
theorem Instruction.apply_frame_of_no_match :
    let store : Log.Store := ⟨["logs"]⟩
    let context : Context := ⟨[], ["proj"], "shop", "auth", false⟩
    let i : Instruction := ⟨"a.txt", .insertAfter, some "y", some "z", none, none, none, none, none⟩
    let s : Site :=
      ⟨⟨[(["proj"], .directory), (["proj", "a.txt"], .file [120, 10])]⟩, ⟨1000, 1⟩, []⟩
    let out := (i.apply (some store) context 0).outcome s
    s.disk.entry? context.root.location = some .directory ∧ store.IsOutside context.root ∧
      out.1.toOption = some ⟨.executed, false, [], some "8c27efca0963"⟩ ∧
      ∀ l, context.root.location <+: l → out.2.disk.entry? l = s.disk.entry? l := by
  intro store context i s out
  have hroot : s.disk.entry? context.root.location = some .directory := by decide +kernel
  have hout : store.IsOutside context.root := (Log.Store.isOutside_iff (by decide)).mpr (by decide)
  have hreport : out.1.toOption = some ⟨.executed, false, [], some "8c27efca0963"⟩ := by
    decide +kernel
  refine ⟨hroot, hout, hreport, fun l hl => ?_⟩
  cases hresult : out.1 with
  | error e =>
    rw [hresult] at hreport
    cases hreport
  | ok r =>
    rw [hresult] at hreport
    have hnothing : r.outcome = .skipped ∨ r.changed = false :=
      .inr (congrArg Report.changed (Option.some.inj hreport))
    obtain ⟨hkept, -⟩ := (i.apply_frame (some store) context 0 s).2 hroot fun _ hstore =>
      Option.some.inj hstore ▸ hout
    exact hkept r hresult hnothing l hl

end Scaffold
