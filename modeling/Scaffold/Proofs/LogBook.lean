import Mathlib.Data.String.Basic
import Scaffold.Proofs.DirectoryListing
import Scaffold.Proofs.RecordRoundTrip
import Scaffold.Proofs.RecordSaving
import Scaffold.Proofs.TableKeys
import Scaffold.Proofs.Utf8RoundTrip

/-!
# The log as a book of records

A store whose directory is there keeps one file for each hash of a table of records. Every operation
of the store does to its directory what the like operation does to the table. The one difference
between the two is a record with an integer of too many digits: it is kept, and it is neither
listed, nor returned, nor removed when its time has come.
-/

namespace Scaffold

open Document Schema

namespace Log

/-! ### Generated hashes -/

/-- A text of the form that all generated hashes have: twelve hexadecimal digits in lower case. -/
structure IsGenerated (hash : String) : Prop where
  length_eq : hash.toList.length = 12
  hexDigit : ∀ c ∈ hash.toList, IsHexDigit c

lemma length_lowBytes (count n : Nat) : (Digest.Md5.lowBytes count n).length = count := by
  induction count generalizing n with
  | zero => rfl
  | succ count ih => rw [Digest.Md5.lowBytes, List.length_cons, ih]

lemma length_hex (bytes : List UInt8) : (Digest.Md5.hex bytes).length = 32 := by
  have hdigest : (Digest.Md5.digest bytes).length = 16 := by
    simp [Digest.Md5.digest, length_lowBytes]
  simp [Digest.Md5.hex, List.length_flatMap, hdigest]

lemma isGenerated_hashOf (project module : String) (index timestamp : Int) :
    IsGenerated (hashOf project module index timestamp) where
  length_eq := by
    rw [hashOf, shortDigest, String.toList_ofList, List.length_take, length_hex]
    rfl
  hexDigit _ h := isHexDigit_of_mem_hashOf h

lemma Record.IsMade.isGenerated {r : Record} (h : r.IsMade) : IsGenerated r.hash := by
  obtain ⟨i, -, hhash⟩ := h.exists_eq
  rw [hhash]
  exact isGenerated_hashOf _ _ _ _

/-- A text of one to 64 hexadecimal digits in lower case is a hash. -/
lemma isHash_of_forall {hash : String} (hne : hash.toList ≠ []) (hlength : hash.toList.length ≤ 64)
    (h : ∀ c ∈ hash.toList, IsHexDigit c) : isHash hash = true := by
  have hlast : hash.toList.getLast? ≠ some '\n' := by
    intro hlast
    exact absurd (h _ (List.mem_of_getLast? hlast)) (by decide)
  have hdigits : hash.toList.all fun c =>
      (48 ≤ c.toNat && c.toNat ≤ 57) || (97 ≤ c.toNat && c.toNat ≤ 102) := by
    rw [List.all_eq_true]
    intro c hc
    simpa [IsHexDigit] using h c hc
  rw [isHash]
  simp only [if_neg hlast, hdigits, Bool.and_true, Bool.and_eq_true, decide_eq_true_eq, hlength,
    and_true]
  simpa using hne

namespace IsGenerated

variable {hash : String} (h : IsGenerated hash)

include h

lemma isHash : isHash hash = true := by
  have hlength := h.length_eq
  refine isHash_of_forall ?_ (by omega) h.hexDigit
  intro hnil
  rw [hnil] at hlength
  cases hlength

lemma utf8ByteSize_eq : (hash ++ ".json").utf8ByteSize = 17 := by
  have hlen : ∀ t : List Char, (∀ c ∈ t, IsHexDigit c) → String.utf8Len t = t.length := by
    intro t ht
    induction t with
    | nil => rfl
    | cons c rest ih =>
      obtain ⟨hc, hrest⟩ := List.forall_mem_cons.mp ht
      have hsize : c.utf8Size = 1 := by
        rw [Char.utf8Size_eq_one_iff, UInt32.le_iff_toNat_le]
        have hn : c.toNat ≤ 127 := by
          rw [IsHexDigit] at hc
          omega
        exact hn
      rw [String.utf8Len_cons, ih hrest, hsize, List.length_cons]
  rw [String.utf8ByteSize_append, ← String.utf8Len_toList, hlen _ h.hexDigit, h.length_eq]
  decide

lemma isName : Disk.IsName (hash ++ ".json") where
  noParent heq := by
    have hsize := h.utf8ByteSize_eq
    rw [heq] at hsize
    exact absurd hsize (by decide)
  noNull := by simpa using not_mem_fileName h.hexDigit (.inr rfl)
  short := by
    rw [h.utf8ByteSize_eq]
    decide

end IsGenerated

/-- What has been found is put in order by time, from the newest record on. -/
lemma newestFirst_mergeSort (found : List Found) :
    (found.mergeSort fun a b => b.record.timestamp ≤ a.record.timestamp).Pairwise
      fun a b => b.record.timestamp ≤ a.record.timestamp := by
  have hsorted : (found.mergeSort fun a b => b.record.timestamp ≤ a.record.timestamp).Pairwise
      fun a b => decide (b.record.timestamp ≤ a.record.timestamp) = true :=
    List.pairwise_mergeSort
      (fun a b c hab hbc => by simp only [decide_eq_true_eq] at *; omega)
      (fun a b => by simp only [Bool.or_eq_true, decide_eq_true_eq]; omega) _
  simpa only [decide_eq_true_eq] using hsorted

/-! ### Books -/

/-- The records of a store by their hashes, in the order in which the hashes were first used. -/
abbrev Book := Table String Record

/-- A book in which every hash stands once, over a record that has been put together under it. -/
structure Book.IsProper (m : Book) : Prop where
  nodup : (m.map Prod.fst).Nodup
  made : ∀ pair ∈ m, pair.2.IsMade ∧ pair.2.hash = pair.1

/-- The name of the file of a record, and the file. -/
def fileEntry (pair : String × Record) : String × Entry :=
  (pair.1 ++ ".json", .file (Text.Utf8.encode (Store.fileText pair.2)))

/-- The file of a record and the record in it, as they are found. -/
def foundOf (pair : String × Record) : Found := ⟨pair.1 ++ ".json", pair.2⟩

lemma append_json_inj {a b : String} : a ++ ".json" = b ++ ".json" ↔ a = b := by
  constructor
  · intro h
    have hlist := congrArg String.toList h
    rw [String.toList_append, String.toList_append, List.append_cancel_right_eq] at hlist
    exact String.toList_injective hlist
  · rintro rfl
    rfl

lemma find?_map_fileEntry (m : Book) (hash : String) :
    Table.find? (m.map fileEntry) (hash ++ ".json") =
      (Table.find? m hash).map fun r => .file (Text.Utf8.encode (Store.fileText r)) := by
  induction m with
  | nil => rfl
  | cons pair rest ih =>
    obtain ⟨key, r⟩ := pair
    simp only [List.map_cons, fileEntry, Table.find?, beq_iff_eq, append_json_inj]
    by_cases hkey : key = hash
    · rw [if_pos hkey, if_pos hkey, Option.map_some]
    · rw [if_neg hkey, if_neg hkey]
      exact ih

lemma insert_map_fileEntry (m : Book) (hash : String) (r : Record) :
    Table.insert (m.map fileEntry) (hash ++ ".json")
        (.file (Text.Utf8.encode (Store.fileText r))) =
      (Table.insert m hash r).map fileEntry := by
  induction m with
  | nil => rfl
  | cons pair rest ih =>
    obtain ⟨key, r'⟩ := pair
    simp only [List.map_cons, fileEntry, Table.insert, beq_iff_eq, append_json_inj]
    by_cases hkey : key = hash
    · subst hkey
      simp [fileEntry]
    · rw [if_neg hkey, if_neg hkey, List.map_cons, ← ih]
      rfl

lemma filter_map_fileEntry (m : Book) (hash : String) :
    (m.map fileEntry).filter (fun pair => pair.1 ≠ hash ++ ".json") =
      (m.filter fun pair => pair.1 ≠ hash).map fileEntry := by
  rw [List.filter_map]
  congr 1
  apply List.filter_congr
  intro pair _
  simp [fileEntry]

namespace Book

/-- What is asked of a store: to keep a record, or to remove those that are older than so many days
at a given time. -/
inductive Operation
  | save (r : Record)
  | prune (days now : Int)

/-- Whether a record is removed when those older than so many days are, and no others than some are
seen. -/
def isExpired (seen : Record → Bool) (days now : Int) (r : Record) : Bool :=
  seen r && r.timestamp < Store.cutoff days now

/-- The book after an operation that sees some of the records. -/
def after (m : Book) (seen : Record → Bool) : Operation → Book
  | .save r => Table.insert m r.hash r
  | .prune days now => m.filter fun pair => !isExpired seen days now pair.2

/-- The answer to an operation: the number of records removed, if it is to remove any. -/
def answer (m : Book) (seen : Record → Bool) : Operation → Option Nat
  | .save _ => none
  | .prune days now => some (m.countP fun pair => isExpired seen days now pair.2)

/-- The answers to a row of operations, and the book after them. -/
def run (m : Book) (seen : Record → Bool) : List Operation → List (Option Nat) × Book
  | [] => ([], m)
  | o :: rest =>
    (m.answer seen o :: ((m.after seen o).run seen rest).1, ((m.after seen o).run seen rest).2)

variable {m : Book}

/-- What is too old among the records that some see are those that are to be removed. -/
lemma perm_old {seen : Record → Bool} (days now : Int) {found : List Found}
    (h : found.Perm ((m.filter fun pair => seen pair.2).map foundOf)) :
    (found.filter fun f => f.record.timestamp < Store.cutoff days now).Perm
      ((m.filter fun pair => isExpired seen days now pair.2).map foundOf) := by
  refine (h.filter _).trans (List.Perm.of_eq ?_)
  rw [List.filter_map, List.filter_filter]
  refine congrArg (List.map foundOf) (List.filter_congr fun pair _ => ?_)
  rw [isExpired, Bool.and_comm]
  rfl

lemma mem_insert {hash : String} {r : Record} {pair : String × Record}
    (h : pair ∈ Table.insert m hash r) : pair = (hash, r) ∨ pair ∈ m := by
  induction m with
  | nil => exact .inl (List.mem_singleton.mp h)
  | cons first rest ih =>
    obtain ⟨key, r'⟩ := first
    rw [Table.insert] at h
    split at h
    · next hkey =>
      rw [beq_iff_eq] at hkey
      subst hkey
      exact (List.mem_cons.mp h).imp_right (List.mem_cons_of_mem _)
    · rcases List.mem_cons.mp h with rfl | hrest
      · exact .inr List.mem_cons_self
      · exact (ih hrest).imp_right (List.mem_cons_of_mem _)

lemma IsProper.insert (h : m.IsProper) {r : Record} (hr : r.IsMade) :
    IsProper (Table.insert m r.hash r) where
  nodup := by
    have hdistinct : Table.HasDistinctKeys m := Table.hasDistinctKeys_iff_nodup.mpr h.nodup
    exact Table.hasDistinctKeys_iff_nodup.mp (hdistinct.insert r.hash r)
  made pair hpair := by
    rcases mem_insert hpair with rfl | hold
    · exact ⟨hr, rfl⟩
    · exact h.made pair hold

lemma IsProper.filter (h : m.IsProper) (keep : String × Record → Bool) :
    IsProper (m.filter keep) where
  nodup := h.nodup.sublist (List.filter_sublist.map _)
  made pair hpair := h.made pair (List.mem_of_mem_filter hpair)

lemma forall_mem_after {P : Record → Prop} (h : ∀ pair ∈ m, P pair.2) (seen : Record → Bool)
    {o : Operation} (ho : ∀ r, o = .save r → P r) : ∀ pair ∈ m.after seen o, P pair.2 := by
  intro pair hpair
  cases o with
  | save r =>
    rcases mem_insert hpair with rfl | hold
    · exact ho r rfl
    · exact h pair hold
  | prune days now => exact h pair (List.mem_of_mem_filter hpair)

lemma forall_mem_run {P : Record → Prop} (seen : Record → Bool) {operations : List Operation}
    (h : ∀ pair ∈ m, P pair.2) (ho : ∀ r, .save r ∈ operations → P r) :
    ∀ pair ∈ (m.run seen operations).2, P pair.2 := by
  induction operations generalizing m with
  | nil => exact h
  | cons o rest ih =>
    refine ih (forall_mem_after h seen fun r hr => ho r ?_) fun r hr => ho r (.tail _ hr)
    rw [← hr]
    exact List.mem_cons_self

/-- A record that has just been saved is in the book. -/
lemma find?_run_concat_save (seen : Record → Bool) (operations : List Operation) (r : Record) :
    Table.find? (m.run seen (operations ++ [.save r])).2 r.hash = some r := by
  induction operations generalizing m with
  | nil => exact Table.find?_insert_self m r (beq_self_eq_true r.hash)
  | cons o rest ih => exact ih

/-- Records on which two observers agree make no difference between them. -/
lemma run_congr {seen seen' : Record → Bool} {operations : List Operation}
    (h : ∀ pair ∈ m, seen pair.2 = seen' pair.2)
    (ho : ∀ r, .save r ∈ operations → seen r = seen' r) :
    m.run seen operations = m.run seen' operations := by
  induction operations generalizing m with
  | nil => rfl
  | cons o rest ih =>
    have hexpired : ∀ days now, ∀ pair ∈ m,
        isExpired seen days now pair.2 = isExpired seen' days now pair.2 := by
      intro days now pair hpair
      rw [isExpired, isExpired, h pair hpair]
    have hafter : m.after seen o = m.after seen' o := by
      cases o with
      | save r => rfl
      | prune days now =>
        refine List.filter_congr fun pair hpair => ?_
        rw [hexpired days now pair hpair]
    have hanswer : m.answer seen o = m.answer seen' o := by
      cases o with
      | save r => rfl
      | prune days now =>
        refine congrArg some (List.countP_congr fun pair hpair => ?_)
        rw [hexpired days now pair hpair]
    have hrest : ∀ pair ∈ m.after seen' o, seen pair.2 = seen' pair.2 := by
      refine forall_mem_after (P := fun r => seen r = seen' r) h seen' fun r hr => ho r ?_
      rw [← hr]
      exact List.mem_cons_self
    rw [run, run, hafter, hanswer, ih hrest fun r hr => ho r (.tail _ hr)]

lemma IsProper.find?_of_mem (h : m.IsProper) {pair : String × Record} (hpair : pair ∈ m) :
    Table.find? m pair.1 = some pair.2 :=
  Table.find?_of_mem h.nodup hpair

lemma IsProper.isGenerated (h : m.IsProper) {pair : String × Record} (hpair : pair ∈ m) :
    IsGenerated pair.1 := by
  obtain ⟨hmade, hhash⟩ := h.made pair hpair
  rw [← hhash]
  exact hmade.isGenerated

/-- A hash stands once in a proper book, so no other record goes with those that are taken out. -/
lemma IsProper.all_name_ne (h : m.IsProper) (gone : Record → Bool) {pair : String × Record}
    (hpair : pair ∈ m) :
    (((m.filter fun other => gone other.2).map foundOf).all
      fun f => f.name ≠ pair.1 ++ ".json") = !gone pair.2 := by
  rw [Bool.eq_iff_iff, List.all_eq_true, Bool.not_eq_true']
  constructor
  · intro hall
    by_contra hgone
    rw [Bool.not_eq_false] at hgone
    exact of_decide_eq_true
      (hall _ (List.mem_map_of_mem (List.mem_filter.mpr ⟨hpair, hgone⟩))) rfl
  · intro hkept f hf
    obtain ⟨other, hother, rfl⟩ := List.mem_map.mp hf
    obtain ⟨hmem, hgone⟩ := List.mem_filter.mp hother
    refine decide_eq_true fun heq => ?_
    have hfind := h.find?_of_mem hmem
    rw [append_json_inj.mp heq, h.find?_of_mem hpair] at hfind
    rw [← Option.some.inj hfind, hkept] at hgone
    cases hgone

end Book

end Log

end Scaffold
