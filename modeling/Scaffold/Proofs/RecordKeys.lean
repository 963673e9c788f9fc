import Scaffold.Log.Record
import Scaffold.Proofs.ErrorLists
import Scaffold.Proofs.JsonTokens
import Scaffold.Proofs.PatternSearch

/-!
# The keys of records

A record is known by the digest of its key, in which the project, the module, the index and the time
are joined by underscores. The project and the module are free texts, which may hold underscores
themselves. The two numbers hold none, so they can be read off the end of the key, and what is lost
is where the project ends and the module begins.
-/

namespace Scaffold.Log

open Document

lemma toString_int_inj {n n' : Int} : toString n = toString n' ↔ n = n' := by
  refine ⟨fun h => ?_, congrArg toString⟩
  have hminus : ∀ n : Int, '-' ∈ (toString n).toList ↔ n < 0 := by
    intro n
    rw [Json.toList_toString_int, List.mem_append]
    constructor
    · rintro (hsign | hdigit)
      · by_contra hn
        simp [hn] at hsign
      · exact absurd (Json.isDigit_of_mem_toDigits hdigit) (by decide)
    · intro hn
      exact .inl (by simp [hn])
  have hsign : n < 0 ↔ n' < 0 := by rw [← hminus, ← hminus, h]
  have hlist := congrArg String.toList h
  rw [Json.toList_toString_int, Json.toList_toString_int, if_congr hsign rfl rfl,
    List.append_cancel_left_eq] at hlist
  have habs : n.natAbs = n'.natAbs := by
    rw [← Json.digitsValue_toDigits n.natAbs, hlist, Json.digitsValue_toDigits]
  omega

/-- A number that stands at the end of a text after an underscore can be told from what is before. -/
lemma append_toString_inj {s s' : String} {n n' : Int} :
    s ++ "_" ++ toString n = s' ++ "_" ++ toString n' ↔ s = s' ∧ n = n' := by
  have hnone : ∀ n : Int, '_' ∉ (toString n).toList.reverse := fun n => by
    rw [List.mem_reverse]
    exact Json.not_mem_toString_int (by decide) (by decide) n
  -- read backwards, the underscore before the number is the first one of the text
  have hback : ∀ (s : String) (n : Int), (s ++ "_" ++ toString n).toList.reverse =
      (toString n).toList.reverse ++ '_' :: s.toList.reverse := by
    intro s n
    simp [String.toList_append]
  rw [← String.toList_inj, ← List.reverse_inj, hback, hback,
    Text.append_cons_inj_of_not_mem (hnone n) (hnone n'), List.reverse_inj, List.reverse_inj,
    String.toList_inj, String.toList_inj, toString_int_inj, and_comm]

section Keys

variable {project project' module module' : String} {index index' timestamp timestamp' : Int}

lemma hashKey_eq_iff :
    hashKey project module index timestamp = hashKey project' module' index' timestamp' ↔
      index = index' ∧ timestamp = timestamp' ∧
        project ++ "_" ++ module = project' ++ "_" ++ module' := by
  rw [hashKey, hashKey, append_toString_inj, append_toString_inj]
  tauto

lemma writtenKey_eq_ok_iff {key : String} :
    writtenKey project module index timestamp = .ok key ↔
      index.natAbs < 10 ^ Text.maxDigits ∧ timestamp.natAbs < 10 ^ Text.maxDigits ∧
        key = hashKey project module index timestamp := by
  have hpower : 10 ^ Text.maxDigits = Number.tenTo Text.maxDigits := by
    rw [Number.tenTo, Nat.pow_eq]
  rw [hpower]
  simp only [writtenKey, bind_eq_ok_iff, decimal_eq_ok_iff]
  constructor
  · rintro ⟨_, ⟨hindex, rfl⟩, _, ⟨htime, rfl⟩, hkey⟩
    exact ⟨hindex, htime, (Except.ok.inj hkey).symm⟩
  · rintro ⟨hindex, htime, rfl⟩
    exact ⟨_, ⟨hindex, rfl⟩, _, ⟨htime, rfl⟩, rfl⟩

end Keys

/-- The key of a record tells its index and its time, and of its project and its module what they
come to when they are joined. Nothing more is lost: within one project a key belongs to one module,
one index and one time. A key is written out unless one of the two numbers has too many digits. -/
theorem hashKey_separates (project project' module module' : String)
    (index index' timestamp timestamp' : Int) :
    (hashKey project module index timestamp = hashKey project' module' index' timestamp' ↔
      index = index' ∧ timestamp = timestamp' ∧
        project ++ "_" ++ module = project' ++ "_" ++ module') ∧
    (hashKey project module index timestamp = hashKey project module' index' timestamp' ↔
      module = module' ∧ index = index' ∧ timestamp = timestamp') ∧
    ∀ key, writtenKey project module index timestamp = .ok key ↔
      index.natAbs < 10 ^ Text.maxDigits ∧ timestamp.natAbs < 10 ^ Text.maxDigits ∧
        key = hashKey project module index timestamp := by
  refine ⟨hashKey_eq_iff, ?_, fun key => writtenKey_eq_ok_iff⟩
  have hmodule : project ++ "_" ++ module = project ++ "_" ++ module' ↔ module = module' := by
    rw [← String.toList_inj]
    simp [String.toList_append, String.toList_inj]
  rw [hashKey_eq_iff, hmodule]
  tauto

/-- The one ambiguity: an underscore at the end of a project or at the start of a module. -/
example : hashKey "shop_" "auth" 0 (-1) = hashKey "shop" "_auth" 0 (-1) := by
  decide

end Scaffold.Log
