import Scaffold.Log.Store
import Scaffold.Proofs.DiskErrors
import Scaffold.Proofs.PathText

/-!
# Saving records

A hash consists of hexadecimal digits in lower case. Its file is therefore one name directly in the
directory of the store, and that name brings no null character into the path. So what can go wrong
when a record is saved depends on the directory of the store, and on the depth of the record.
-/

namespace Scaffold.Log

/-- A hexadecimal digit in lower case. -/
def IsHexDigit (c : Char) : Prop :=
  (48 ≤ c.toNat ∧ c.toNat ≤ 57) ∨ (97 ≤ c.toNat ∧ c.toNat ≤ 102)

instance (c : Char) : Decidable (IsHexDigit c) := inferInstanceAs (Decidable (_ ∨ _))

lemma isHexDigit_digitChar : ∀ n < 16, IsHexDigit (Nat.digitChar n) := by decide

lemma isHexDigit_of_mem_hex {bytes : List UInt8} {c : Char} (h : c ∈ Digest.Md5.hex bytes) :
    IsHexDigit c := by
  obtain ⟨b, -, hc⟩ := List.mem_flatMap.mp h
  have hb : b.toNat < 256 := b.toNat_lt
  rcases List.mem_pair.mp hc with rfl | rfl
  · exact isHexDigit_digitChar _ (by omega)
  · exact isHexDigit_digitChar _ (by omega)

lemma isHexDigit_of_mem_hashOf {project module : String} {index timestamp : Int} {c : Char}
    (h : c ∈ (hashOf project module index timestamp).toList) : IsHexDigit c := by
  rw [hashOf, shortDigest, String.toList_ofList] at h
  exact isHexDigit_of_mem_hex (List.mem_of_mem_take h)

lemma isHexDigit_of_hash_eq {hash project module : String} {index timestamp : Int}
    (h : hash = hashOf project module index timestamp) : ∀ c ∈ hash.toList, IsHexDigit c :=
  fun _ hc => isHexDigit_of_mem_hashOf (h ▸ hc)

/-! ### The file of a hash -/

variable {hash : String}

lemma not_mem_fileName (h : ∀ c ∈ hash.toList, IsHexDigit c) {c : Char}
    (hc : c = '/' ∨ c = '\x00') : c ∉ (hash ++ ".json").toList := by
  rw [String.toList_append, List.mem_append, not_or]
  constructor
  · intro hmem
    have := h c hmem
    rcases hc with rfl | rfl <;> revert this <;> decide
  · rcases hc with rfl | rfl <;> decide

/-- The file of a text without a slash lies directly in the directory of the store. -/
lemma pathOf_eq_of_not_mem (s : Store) (h : '/' ∉ (hash ++ ".json").toList) :
    s.pathOf hash = s.directory.child (hash ++ ".json") := by
  have hlength : (hash ++ ".json").length = hash.length + 5 := by
    rw [String.length_append]
    rfl
  rw [Store.pathOf, Path.ofString_of_not_mem h]
  · rfl
  · intro heq
    rw [heq, String.length_empty] at hlength
    omega
  · intro heq
    rw [heq, show ".".length = 1 from rfl] at hlength
    omega

lemma pathOf_eq (s : Store) (h : ∀ c ∈ hash.toList, IsHexDigit c) :
    s.pathOf hash = s.directory.child (hash ++ ".json") :=
  pathOf_eq_of_not_mem s (not_mem_fileName h (.inl rfl))

/-- The file of a record has a null character in its path only if the directory has. -/
lemma hasNull_pathOf (s : Store) (h : ∀ c ∈ hash.toList, IsHexDigit c) :
    Disk.hasNull (s.pathOf hash) = Disk.hasNull s.directory := by
  have hname : (hash ++ ".json").toList.contains '\x00' = false := by
    simpa using not_mem_fileName h (.inr rfl)
  rw [pathOf_eq s h, Disk.hasNull_child, hname, Bool.or_false]

/-! ### What comes of saving -/

section Saving

variable {s : Store} {r : Record} {d : Disk}

lemma save_of_hasNull (h : Disk.hasNull s.directory = true) :
    (s.save r d).1 = .error (.disk .nullCharacter) := by
  have hmake := Disk.makeDirectories_of_hasNull (d := d) h
  unfold Store.save
  dsimp only
  split
  · next e d' he =>
    rw [he] at hmake
    obtain rfl : e = .nullCharacter := Except.error.inj hmake
    rfl
  · next d' he => simp [he] at hmake

/-- No record is saved whose directory cannot be made. -/
lemma save_of_not_isOk (h : (d.makeDirectories s.directory).1.isOk = false) :
    ∃ e, (s.save r d).1 = .error e := by
  unfold Store.save
  dsimp only
  split
  · exact ⟨_, rfl⟩
  · next he =>
    rw [he] at h
    cases h

/-- A record that is not saved is nested too deeply, or its path has a null character, or the log
says why it could not be written. -/
lemma save_error {e : Failure} (h : (s.save r d).1 = .error e) :
    (e = .tooDeepToStore ∧ r.isShallow = false) ∨
      (e = .disk .nullCharacter ∧
        (Disk.hasNull s.directory = true ∨ Disk.hasNull (s.pathOf r.hash) = true)) ∨
      ∃ fault, e = .log (s.pathOf r.hash) (.unwritable fault) := by
  unfold Store.save at h
  dsimp only at h
  split at h
  · next e' d' he =>
    simp only [Except.error.injEq] at h
    split at h
    · have hdirectory := Disk.makeDirectories_eq_null_iff.mp (congrArg Prod.fst he)
      exact .inr (.inl ⟨h.symm, .inl hdirectory⟩)
    · exact .inr (.inr ⟨_, h.symm⟩)
  · split at h
    · next hdeep => exact .inl ⟨(Except.error.inj h).symm, by simpa using hdeep⟩
    · split at h
      · next e' he =>
        simp only [Except.error.injEq] at h
        split at h
        · exact .inr (.inl ⟨h.symm, .inr (Disk.writeText_eq_null_iff.mp he)⟩)
        · exact .inr (.inr ⟨_, h.symm⟩)
      · cases h

/-- A record of little depth under a proper hash fails to be saved only in ways that the log
reports, unless the path of the directory has a null character. -/
lemma log_of_save_error (hnull : Disk.hasNull s.directory = false)
    (hhash : ∀ c ∈ r.hash.toList, IsHexDigit c) (hshallow : r.isShallow = true) {e : Failure}
    (h : (s.save r d).1 = .error e) : ∃ fault, e = .log (s.pathOf r.hash) (.unwritable fault) := by
  rcases save_error h with ⟨-, hdeep⟩ | ⟨-, hpath⟩ | hlog
  · simp [hshallow] at hdeep
  · simp [hasNull_pathOf s hhash, hnull] at hpath
  · exact hlog

end Saving

end Scaffold.Log
