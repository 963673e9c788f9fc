import Mathlib.Data.List.Forall2
import Mathlib.Tactic.Lemma
import Scaffold.Text.Integer

/-!
# Results that may be errors, one by one and in lists

When a mapped result is an error or a value, and when a list of results is: it has a value exactly
if all members have theirs, and an error exactly if one of them has. A number is written out unless
it has too many digits.
-/

namespace Scaffold

section Map

variable {ε α β : Type} {x : Except ε α} {f : α → β}

lemma map_eq_error_iff {e : ε} : x.map f = .error e ↔ x = .error e := by
  cases x <;> simp [Except.map]

lemma map_eq_ok_iff {b : β} : x.map f = .ok b ↔ ∃ a, x = .ok a ∧ f a = b := by
  cases x <;> simp [Except.map]

lemma mapError_eq_ok_iff {ε' : Type} {g : ε → ε'} {a : α} :
    x.mapError g = .ok a ↔ x = .ok a := by
  cases x <;> simp [Except.mapError]

lemma bind_eq_ok_iff {k : α → Except ε β} {b : β} :
    x >>= k = .ok b ↔ ∃ a, x = .ok a ∧ k a = .ok b := by
  cases x <;> simp [bind, Except.bind]

end Map

lemma decimal_eq_error_iff {n : Int} {e : Text.Unwritable} :
    Text.decimal n = .error e ↔ Number.tenTo Text.maxDigits ≤ n.natAbs := by
  rw [Text.decimal]
  split
  · next h =>
    exact iff_of_true rfl h
  · next h =>
    exact iff_of_false (by rintro ⟨⟩) h

lemma decimal_eq_ok_iff {n : Int} {t : String} :
    Text.decimal n = .ok t ↔ n.natAbs < Number.tenTo Text.maxDigits ∧ toString n = t := by
  rw [Text.decimal]
  split
  · next h =>
    exact iff_of_false (by rintro ⟨⟩) fun hshort => absurd hshort.1 (Nat.not_lt.mpr h)
  · next h =>
    rw [Except.ok.injEq, and_iff_right (Nat.not_le.mp h)]

section List

variable {ε α β : Type} {f : α → Except ε β} {xs : List α}

lemma mapM_congr {g : α → Except ε β} (h : ∀ x ∈ xs, f x = g x) : xs.mapM f = xs.mapM g := by
  induction xs with
  | nil => rfl
  | cons x rest ih =>
    obtain ⟨hx, hrest⟩ := List.forall_mem_cons.mp h
    rw [List.mapM_cons, List.mapM_cons, hx, ih hrest]

lemma mapM_eq_ok_iff {ys : List β} :
    xs.mapM f = .ok ys ↔ List.Forall₂ (fun x y => f x = .ok y) xs ys := by
  induction xs generalizing ys with
  | nil =>
    rw [List.mapM_nil, List.forall₂_nil_left_iff]
    exact ⟨fun h => (Except.ok.inj h).symm, fun h => h ▸ rfl⟩
  | cons x rest ih =>
    rw [List.mapM_cons, List.forall₂_cons_left_iff]
    cases hx : f x with
    | error e =>
      constructor
      · intro h
        cases h
      · rintro ⟨y, zs, hy, -, -⟩
        cases hy
    | ok y =>
      cases hrest : rest.mapM f with
      | error e =>
        constructor
        · intro h
          cases h
        · rintro ⟨y', zs, -, hzs, -⟩
          rw [ih.mpr hzs] at hrest
          cases hrest
      | ok zs =>
        constructor
        · intro h
          exact ⟨y, zs, rfl, ih.mp hrest, (Except.ok.inj h).symm⟩
        · rintro ⟨y', zs', hy, hzs, rfl⟩
          obtain rfl : y = y' := Except.ok.inj hy
          obtain rfl : zs = zs' := Except.ok.inj (hrest.symm.trans (ih.mpr hzs))
          rfl

lemma mapM_eq_ok_map {g : α → β} (h : ∀ x ∈ xs, f x = .ok (g x)) : xs.mapM f = .ok (xs.map g) := by
  induction xs with
  | nil => rfl
  | cons x rest ih =>
    obtain ⟨hx, hrest⟩ := List.forall_mem_cons.mp h
    rw [List.mapM_cons, hx, ih hrest]
    rfl

lemma exists_of_mapM_eq_error {e : ε} (h : xs.mapM f = .error e) : ∃ x ∈ xs, f x = .error e := by
  induction xs with
  | nil => cases h
  | cons x rest ih =>
    rw [List.mapM_cons] at h
    cases hx : f x with
    | error e' =>
      rw [hx] at h
      obtain rfl := Except.error.inj h
      exact ⟨x, List.mem_cons_self, hx⟩
    | ok y =>
      rw [hx] at h
      cases hrest : rest.mapM f with
      | error e' =>
        rw [hrest] at h
        obtain rfl := Except.error.inj h
        obtain ⟨x', hx', he⟩ := ih hrest
        exact ⟨x', List.mem_cons_of_mem x hx', he⟩
      | ok zs =>
        rw [hrest] at h
        cases h

lemma exists_mem_of_mapM_eq_ok {ys : List β} (h : xs.mapM f = .ok ys) {x : α} (hx : x ∈ xs) :
    ∃ y ∈ ys, f x = .ok y := by
  have hall := mapM_eq_ok_iff.mp h
  obtain ⟨k, hk, rfl⟩ := List.getElem_of_mem hx
  have hk' : k < ys.length := hall.length_eq ▸ hk
  exact ⟨ys[k], List.getElem_mem hk', hall.get hk hk'⟩

/-- What each step keeps, a fold keeps. -/
lemma foldlM_keeps {σ : Type} {step : σ → α → Except ε σ} {P : σ → Prop}
    (hstep : ∀ s x s', P s → step s x = .ok s' → P s') {s s' : σ} (hs : P s)
    (h : xs.foldlM step s = .ok s') : P s' := by
  induction xs generalizing s with
  | nil => exact Except.ok.inj h ▸ hs
  | cons x rest ih =>
    rw [List.foldlM_cons, bind_eq_ok_iff] at h
    obtain ⟨next, hnext, hrest⟩ := h
    exact ih (hstep s x next hs hnext) hrest

lemma exists_mapM_eq_error_iff :
    (∃ e, xs.mapM f = .error e) ↔ ∃ x ∈ xs, ∃ e, f x = .error e := by
  constructor
  · rintro ⟨e, h⟩
    obtain ⟨x, hx, he⟩ := exists_of_mapM_eq_error h
    exact ⟨x, hx, e, he⟩
  · rintro ⟨x, hx, e, he⟩
    cases h : xs.mapM f with
    | error e' => exact ⟨e', rfl⟩
    | ok ys =>
      obtain ⟨y, -, hy⟩ := exists_mem_of_mapM_eq_ok h hx
      rw [he] at hy
      cases hy

end List

end Scaffold
