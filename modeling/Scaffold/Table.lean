/-!
# Tables

Association lists in the order in which their keys were first put in. Putting a key in again changes
what it stands for and not its place, and the key keeps its first form.
-/

namespace Scaffold

/-- Pairs of a key and what it stands for, in order of first insertion. -/
abbrev Table (κ α : Type) := List (κ × α)

namespace Table

variable {κ α : Type} [BEq κ]

/-- What a key stands for. -/
def find? (t : Table κ α) (k : κ) : Option α :=
  match t with
  | [] => none
  | (key, a) :: rest => if key == k then some a else find? rest k

/-- The table in which the key stands for the given value. -/
def insert (t : Table κ α) (k : κ) (a : α) : Table κ α :=
  match t with
  | [] => [(k, a)]
  | (key, b) :: rest => if key == k then (key, a) :: rest else (key, b) :: insert rest k a

/-- The table of a list of pairs, the later ones prevailing. -/
def ofPairs (pairs : List (κ × α)) : Table κ α :=
  pairs.foldl (fun t pair => insert t pair.1 pair.2) []

/-- The keys in order. -/
def keys (t : Table κ α) : List κ := t.map (·.1)

theorem find?_insert_self (t : Table κ α) {k : κ} (a : α) (hk : (k == k) = true) :
    find? (insert t k a) k = some a := by
  induction t with
  | nil => simp [insert, find?, hk]
  | cons pair rest ih =>
    obtain ⟨key, b⟩ := pair
    by_cases h : key == k
    · simp [insert, find?, h]
    · simp [insert, find?, h, ih]

theorem find?_insert_ne [PartialEquivBEq κ] (t : Table κ α) {k l : κ} (a : α)
    (hne : (k == l) = false) : find? (insert t k a) l = find? t l := by
  induction t with
  | nil => simp [insert, find?, hne]
  | cons pair rest ih =>
    obtain ⟨key, b⟩ := pair
    by_cases h : key == k
    · have hl : (key == l) = false := by
        cases hkl : key == l with
        | false => rfl
        | true => rw [PartialEquivBEq.trans (PartialEquivBEq.symm h) hkl] at hne; cases hne
      simp [insert, find?, h, hl]
    · by_cases hl : key == l
      · simp [insert, find?, h, hl]
      · simp [insert, find?, h, hl, ih]

section Lawful

variable [LawfulBEq κ]

theorem find?_insert [DecidableEq κ] (t : Table κ α) (k l : κ) (a : α) :
    find? (insert t k a) l = if k = l then some a else find? t l := by
  by_cases h : k = l
  · subst h
    rw [if_pos rfl]
    exact find?_insert_self t a (beq_self_eq_true k)
  · rw [if_neg h]
    exact find?_insert_ne t a (beq_eq_false_iff_ne.mpr h)

theorem mem_of_find? {t : Table κ α} {k : κ} {a : α} (h : find? t k = some a) : (k, a) ∈ t := by
  induction t with
  | nil => cases h
  | cons pair rest ih =>
    obtain ⟨key, b⟩ := pair
    rw [find?] at h
    split at h
    · next hkey =>
      obtain rfl := beq_iff_eq.mp hkey
      obtain rfl := Option.some.inj h
      exact List.mem_cons_self
    · exact List.mem_cons_of_mem _ (ih h)

theorem find?_filter (t : Table κ α) (keep : κ → Bool) (k : κ) :
    find? (t.filter fun pair => keep pair.1) k = if keep k = true then find? t k else none := by
  induction t with
  | nil => simp [find?]
  | cons pair rest ih =>
    obtain ⟨key, a⟩ := pair
    by_cases hkey : key = k
    · subst hkey
      cases hkeep : keep key with
      | false => simpa [hkeep] using ih
      | true => simp [hkeep, find?]
    · have hne := beq_eq_false_iff_ne.mpr hkey
      cases hkeep : keep key with
      | false => simpa [hkeep, find?, hne] using ih
      | true => simpa [hkeep, find?, hne] using ih

end Lawful

end Table

end Scaffold
