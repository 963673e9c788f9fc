import Scaffold.Execution.Change
import Scaffold.Proofs.ErrorLists

/-!
# What can go wrong on the disk

Which errors the operations of the disk end in. Most refusals of the system are answered by the
caller; two kinds of path are not: those that hold a null character, which name nothing at all, and
those that are too long for the system to look at. The statements say exactly which operation meets
them on which path.
-/

namespace Scaffold.Disk

/-- A path that the system does not look at to its end: it is too long as a whole, or following it
leads through existing directories to a name that is too long. -/
def TooLong (d : Disk) (p : Path) : Prop :=
  hasNull p = false ∧ (maxPathSize < p.text.utf8ByteSize ∨ d.walk [] p.names = .error .nameTooLong)

instance (d : Disk) (p : Path) : Decidable (TooLong d p) :=
  inferInstanceAs (Decidable (_ ∧ (_ ∨ _)))

lemma walk_error {d : Disk} {names : List String} {l : Location} {fault : SystemFault}
    (h : d.walk l names = .error fault) :
    fault = .nameTooLong ∨ fault = .notFound ∨ fault = .notDirectory := by
  induction names generalizing l with
  | nil => simp [walk] at h
  | cons name rest ih =>
    unfold walk at h
    split at h
    · exact ih h
    · split at h
      · exact .inl (Except.error.inj h).symm
      · split at h
        · cases h
        · split at h
          · exact .inr (.inl (Except.error.inj h).symm)
          · exact .inr (.inr (Except.error.inj h).symm)
          · exact ih h

/-! ### Null characters -/

lemma locate_of_hasNull {d : Disk} {p : Path} (h : hasNull p = true) :
    d.locate p = .error .nullCharacter := by
  rw [locate, if_pos h]

lemma locate_ne_null {d : Disk} {p : Path} (h : hasNull p = false) :
    d.locate p ≠ .error .nullCharacter := by
  rw [locate, h]
  simp only [Bool.false_eq_true, if_false]
  split
  · simp
  · split <;> simp

lemma makeDirectory_of_hasNull {d : Disk} {p : Path} (h : hasNull p = true) :
    d.makeDirectory p = .error .nullCharacter := by
  rw [makeDirectory, locate_of_hasNull h]

lemma makeDirectory_ne_null {d : Disk} {p : Path} (h : hasNull p = false) :
    d.makeDirectory p ≠ .error .nullCharacter := by
  rw [makeDirectory]
  split
  · next e he => exact fun heq => locate_ne_null h (by rw [he, Except.error.inj heq])
  · split <;> simp

lemma hasNull_parent {p : Path} (h : hasNull p = false) : hasNull p.parent = false := by
  simp only [hasNull, List.any_eq_false] at h ⊢
  exact fun name hname => h name (List.dropLast_subset p.names hname)

lemma hasNull_child (p : Path) (name : String) :
    hasNull (p.child name) = (hasNull p || name.toList.contains '\x00') := by
  simp [hasNull, Path.child]

/-! ### Looking a path up -/

lemma find?_of_hasNull {d : Disk} {p : Path} (h : hasNull p = true) : d.find? p = .ok none := by
  rw [find?, lookup, locate_of_hasNull h]

/-- The only question that the disk leaves open is the one about a path that is too long. -/
lemma find?_eq_error_iff {d : Disk} {p : Path} {e : DiskError} :
    d.find? p = .error e ↔ TooLong d p ∧ e = .refused .nameTooLong p := by
  cases hnull : hasNull p with
  | true => simp [find?_of_hasNull hnull, TooLong, hnull]
  | false =>
    by_cases hsize : maxPathSize < p.text.utf8ByteSize
    · simp [find?, lookup, locate, hnull, hsize, TooLong, eq_comm]
    · cases hwalk : d.walk [] p.names with
      | ok l =>
        cases hentry : d.entry? l <;>
          simp [find?, lookup, locate, hnull, hsize, hwalk, hentry, TooLong]
      | error fault =>
        rcases walk_error hwalk with rfl | rfl | rfl <;>
          simp [find?, lookup, locate, hnull, hsize, hwalk, TooLong, eq_comm]

section Question

variable {α : Type} {answer : Option Entry → α} {d : Disk} {p : Path}

lemma map_find?_eq_error_iff {e : DiskError} :
    (d.find? p).map answer = .error e ↔ TooLong d p ∧ e = .refused .nameTooLong p := by
  rw [map_eq_error_iff, find?_eq_error_iff]

lemma not_tooLong_of_map_find? {a : α} (h : (d.find? p).map answer = .ok a) : ¬TooLong d p := by
  intro hlong
  rw [map_find?_eq_error_iff.mpr ⟨hlong, rfl⟩] at h
  cases h

lemma hasNull_of_map_find? {a : α} (h : (d.find? p).map answer = .ok a) (ha : a ≠ answer none) :
    hasNull p = false := by
  cases hnull : hasNull p with
  | false => rfl
  | true =>
    rw [find?_of_hasNull hnull] at h
    exact absurd (Except.ok.inj h).symm ha

end Question

/-- A file that can be read is there. -/
lemma holds_of_readFile {d : Disk} {p : Path} {bytes : List UInt8}
    (h : d.readFile p = .ok bytes) : d.holds p = .ok true := by
  rw [readFile] at h
  rw [holds, find?]
  split at h
  · cases h
  · next bytes' hlookup =>
    rw [hlookup]
    rfl
  · cases h

lemma holds_of_readText {d : Disk} {p : Path} {t : List Char} (h : d.readText p = .ok t) :
    d.holds p = .ok true := by
  rw [readText] at h
  split at h
  · cases h
  · next bytes hfile => exact holds_of_readFile hfile

/-! ### Making directories and writing files -/

lemma acceptDirectory_ne_null {d : Disk} {p : Path} {e : DiskError} (he : e ≠ .nullCharacter) :
    d.acceptDirectory p e ≠ .error .nullCharacter := by
  unfold acceptDirectory
  split
  · contradiction
  · split
    · simp
    · simpa using he
    · next e' he' =>
      rw [(map_find?_eq_error_iff.mp he').2]
      simp

lemma makeDirectories_of_hasNull {d : Disk} {p : Path} (h : hasNull p = true) :
    (d.makeDirectories p).1 = .error .nullCharacter := by
  rw [makeDirectories, makeDirectory_of_hasNull h]
  rfl

lemma makeDirectories_ne_null {d : Disk} {p : Path} (h : hasNull p = false) :
    (d.makeDirectories p).1 ≠ .error .nullCharacter := by
  induction hn : p.names.length generalizing p d with
  | zero =>
    have hnames : p.names = [] := List.length_eq_zero_iff.mp hn
    rw [makeDirectories]
    split
    · simp
    · simp [hnames]
    · next e _ he =>
      exact acceptDirectory_ne_null fun heq => makeDirectory_ne_null h (by rw [he, heq])
  | succ n ih =>
    have hparent : p.parent.names.length = n := by
      simp only [Path.parent, List.length_dropLast]
      omega
    have hrec : (d.makeDirectories p.parent).1 ≠ .error .nullCharacter :=
      ih (hasNull_parent h) hparent
    rw [makeDirectories]
    split
    · simp
    · split
      · simp
      · split
        · next e d' he =>
          rw [he] at hrec
          exact hrec
        · next d' he =>
          split
          · simp
          · simp
          · next e _ he' =>
            exact acceptDirectory_ne_null fun heq => makeDirectory_ne_null h (by rw [he', heq])
    · next e _ he =>
      exact acceptDirectory_ne_null fun heq => makeDirectory_ne_null h (by rw [he, heq])

lemma makeDirectories_eq_null_iff {d : Disk} {p : Path} :
    (d.makeDirectories p).1 = .error .nullCharacter ↔ hasNull p = true := by
  constructor
  · intro h
    by_contra hnull
    exact makeDirectories_ne_null (by simpa using hnull) h
  · exact makeDirectories_of_hasNull

lemma writeText_eq_null_iff {d : Disk} {p : Path} {t : List Char} :
    d.writeText p t = .error .nullCharacter ↔ hasNull p = true := by
  constructor
  · intro h
    by_contra hnull
    rw [writeText, writeFile] at h
    split at h
    · next e he => exact locate_ne_null (by simpa using hnull) (by rw [he, Except.error.inj h])
    · split at h <;> simp at h
  · intro h
    rw [writeText, writeFile, locate_of_hasNull h]

/-- A text cannot be saved for a null character exactly if the null character is in the path of the
directory, or in the last name while the directory is there or can be made. -/
lemma saveText_eq_null_iff {d : Disk} {p : Path} {t : List Char} :
    (d.saveText p t).1 = .error .nullCharacter ↔
      hasNull p.parent = true ∨ (hasNull p = true ∧ (d.makeDirectories p.parent).1 = .ok ()) := by
  rw [saveText]
  rcases hmake : d.makeDirectories p.parent with ⟨e | u, d'⟩
  · have hparent := makeDirectories_eq_null_iff (d := d) (p := p.parent)
    rw [hmake] at hparent
    simp only [reduceCtorEq, and_false, or_false]
    exact hparent
  · have hparent : hasNull p.parent = false := by
      by_contra hnull
      have := makeDirectories_of_hasNull (d := d) (p := p.parent) (by simpa using hnull)
      simp [hmake] at this
    have hwrite := writeText_eq_null_iff (d := d') (p := p) (t := t)
    simp only [hparent, Bool.false_eq_true, false_or, and_true]
    rw [← hwrite]
    split
    · next e he => simp [he]
    · next d'' he => simp [he]

end Scaffold.Disk
