import Mathlib.Algebra.Order.Field.Power
import Mathlib.Data.Nat.Cast.Field
import Mathlib.Data.Rat.Cast.Order
import Mathlib.Tactic.Linarith
import Mathlib.Tactic.Positivity
import Mathlib.Tactic.Ring
import Scaffold.Number.Binary64

/-!
# Rounding

How far a binary floating-point number is from the quotient that has been rounded to it: half of
its last digit at most. So a quotient below a power of two is met to within 54 binary places less,
and one that is a whole number of few enough digits is met exactly. A quotient that is not below a
power of two is not rounded below it.
-/

namespace Scaffold.Number

lemma twoTo_cast (n : Nat) : ((twoTo n : Nat) : ℚ) = 2 ^ n := by
  rw [twoTo, Nat.pow_eq, Nat.cast_pow, Nat.cast_ofNat]

namespace Binary64

/-- What a number is worth without its sign. -/
def worth (mantissa : Nat) (exponent : Int) : ℚ := mantissa * 2 ^ exponent

lemma zpow_toNat {e : Int} (h : 0 ≤ e) : (2 : ℚ) ^ e.toNat = 2 ^ e := by
  rw [← zpow_natCast, Int.toNat_of_nonneg h]

lemma ratio_spec (mantissa : Nat) (exponent : Int) :
    0 < (ratio mantissa exponent).2 ∧
      ((ratio mantissa exponent).1 : ℚ) / (ratio mantissa exponent).2 =
        worth mantissa exponent := by
  rw [ratio, worth]
  by_cases h : 0 ≤ exponent
  · rw [if_pos h]
    refine ⟨Nat.one_pos, ?_⟩
    rw [Nat.cast_mul, twoTo_cast, zpow_toNat h, Nat.cast_one, div_one]
  · rw [if_neg h]
    refine ⟨Nat.pow_pos (by decide), ?_⟩
    rw [twoTo_cast, zpow_toNat (by omega), zpow_neg, div_inv_eq_mul]

section

variable {num den : Nat}

lemma scaled_spec (num : Nat) (hden : 0 < den) (exponent : Int) :
    0 < (scaled num den exponent).2 ∧
      ((scaled num den exponent).1 : ℚ) / (scaled num den exponent).2 =
        num / den * 2 ^ (-exponent) := by
  rw [scaled]
  by_cases h : 0 ≤ exponent
  · rw [if_pos h]
    refine ⟨Nat.mul_pos hden (Nat.pow_pos (by decide)), ?_⟩
    rw [Nat.cast_mul, twoTo_cast, zpow_toNat h, zpow_neg, div_mul_eq_div_div,
      div_eq_mul_inv (_ / _)]
  · rw [if_neg h]
    refine ⟨hden, ?_⟩
    rw [Nat.cast_mul, twoTo_cast, zpow_toNat (by omega), mul_div_right_comm]

/-- A quotient is rounded by half at most. -/
lemma abs_roundDiv_sub_le (num : Nat) (hden : 0 < den) :
    |(roundDiv num den : ℚ) - num / den| ≤ 1 / 2 := by
  have hpos : (0 : ℚ) < den := Nat.cast_pos.mpr hden
  have hdiv : den * (num / den) + num % den = num := Nat.div_add_mod num den
  have hmod : num % den < den := Nat.mod_lt num hden
  have hbounds : 2 * num ≤ 2 * (roundDiv num den * den) + den ∧
      2 * (roundDiv num den * den) ≤ 2 * num + den := by
    have hcomm : num / den * den = den * (num / den) := Nat.mul_comm _ _
    rw [roundDiv]
    split
    · have hsucc : (num / den + 1) * den = num / den * den + den := Nat.succ_mul _ _
      omega
    · omega
  have hlow : (2 : ℚ) * num ≤ 2 * (roundDiv num den * den) + den := by exact_mod_cast hbounds.1
  have hhigh : (2 : ℚ) * (roundDiv num den * den) ≤ 2 * num + den := by exact_mod_cast hbounds.2
  have hnum : (num : ℚ) = num / den * den := (div_mul_cancel₀ _ hpos.ne').symm
  rw [abs_le]
  constructor
  · nlinarith
  · nlinarith

lemma roundDiv_of_dvd (hden : 0 < den) (h : den ∣ num) : (roundDiv num den : ℚ) = num / den := by
  have hmod : num % den = 0 := Nat.mod_eq_zero_of_dvd h
  have hround : roundDiv num den = num / den := by
    rw [roundDiv]
    rw [if_neg]
    omega
  rw [hround, Nat.cast_div h (Nat.cast_pos.mpr hden).ne']

lemma le_roundDiv {n : Nat} (hden : 0 < den) (h : n * den ≤ num) : n ≤ roundDiv num den := by
  have hdiv : n ≤ num / den := (Nat.le_div_iff_mul_le hden).mpr h
  rw [roundDiv]
  split
  · omega
  · exact hdiv

lemma log2_spec {n : Nat} (h : 0 < n) :
    (2 : ℚ) ^ (n.log2 : Int) ≤ n ∧ (n : ℚ) < 2 ^ ((n.log2 : Int) + 1) := by
  have hlow : 2 ^ n.log2 ≤ n := Nat.log2_self_le h.ne'
  have hhigh : n < 2 ^ (n.log2 + 1) := Nat.lt_log2_self
  constructor
  · rw [zpow_natCast]
    exact_mod_cast hlow
  · rw [← Int.natCast_succ, zpow_natCast]
    exact_mod_cast hhigh

/-- Where the leading binary digit of a quotient is looked for first. -/
def leadingGuess (num den : Nat) : Int := Int.ofNat num.log2 - Int.ofNat den.log2

/-- A quotient has its leading binary digit at the guess or one place below it. -/
lemma leadingGuess_spec (hnum : 0 < num) (hden : 0 < den) :
    (2 : ℚ) ^ (leadingGuess num den - 1) ≤ num / den ∧
      (num / den : ℚ) < 2 ^ (leadingGuess num den + 1) := by
  have hpos : (0 : ℚ) < den := Nat.cast_pos.mpr hden
  obtain ⟨hnumLow, hnumHigh⟩ := log2_spec hnum
  obtain ⟨hdenLow, hdenHigh⟩ := log2_spec hden
  have hlow : leadingGuess num den - 1 + (den.log2 + 1) = num.log2 := by
    simp only [leadingGuess, Int.ofNat_eq_natCast]
    omega
  have hhigh : leadingGuess num den + 1 + den.log2 = num.log2 + 1 := by
    simp only [leadingGuess, Int.ofNat_eq_natCast]
    omega
  constructor
  · rw [le_div_iff₀ hpos]
    calc (2 : ℚ) ^ (leadingGuess num den - 1) * den
        ≤ 2 ^ (leadingGuess num den - 1) * 2 ^ ((den.log2 : Int) + 1) :=
          mul_le_mul_of_nonneg_left hdenHigh.le (by positivity)
      _ = 2 ^ (num.log2 : Int) := by rw [← zpow_add₀ two_ne_zero, hlow]
      _ ≤ num := hnumLow
  · rw [div_lt_iff₀ hpos]
    calc (num : ℚ) < 2 ^ ((num.log2 : Int) + 1) := hnumHigh
      _ = 2 ^ (leadingGuess num den + 1) * 2 ^ (den.log2 : Int) := by
        rw [← zpow_add₀ two_ne_zero, hhigh]
      _ ≤ 2 ^ (leadingGuess num den + 1) * den :=
        mul_le_mul_of_nonneg_left hdenLow (by positivity)

lemma scaled_lt_iff (num : Nat) (hden : 0 < den) (exponent : Int) :
    (scaled num den exponent).1 < (scaled num den exponent).2 ↔
      (num / den : ℚ) < 2 ^ exponent := by
  obtain ⟨hpos, hscaled⟩ := scaled_spec num hden exponent
  have hpos' : (0 : ℚ) < (scaled num den exponent).2 := Nat.cast_pos.mpr hpos
  have hunit : (0 : ℚ) < 2 ^ exponent := by positivity
  rw [← Nat.cast_lt (α := ℚ), ← div_lt_one hpos', hscaled, zpow_neg, ← div_eq_mul_inv,
    div_lt_one hunit]

/-- A quotient has its leading binary digit where it is looked for. -/
lemma leading_spec (hnum : 0 < num) (hden : 0 < den) :
    (2 : ℚ) ^ leading num den ≤ num / den ∧ (num / den : ℚ) < 2 ^ (leading num den + 1) := by
  obtain ⟨hbelow, habove⟩ := leadingGuess_spec hnum hden
  have hcompare := scaled_lt_iff num hden (leadingGuess num den)
  rw [leading, ← leadingGuess]
  dsimp only
  by_cases hless : (scaled num den (leadingGuess num den)).1 <
      (scaled num den (leadingGuess num den)).2
  · rw [if_pos hless, sub_add_cancel]
    exact ⟨hbelow, hcompare.mp hless⟩
  · rw [if_neg hless]
    exact ⟨not_lt.mp (mt hcompare.mpr hless), habove⟩

lemma leading_lt {K : Int} (hnum : 0 < num) (hden : 0 < den) (h : (num / den : ℚ) < 2 ^ K) :
    leading num den < K :=
  (zpow_lt_zpow_iff_right₀ one_lt_two).mp ((leading_spec hnum hden).1.trans_lt h)

lemma le_leading {K : Int} (hnum : 0 < num) (hden : 0 < den) (h : (2 : ℚ) ^ K ≤ num / den) :
    K ≤ leading num den :=
  Int.lt_add_one_iff.mp
    ((zpow_lt_zpow_iff_right₀ one_lt_two).mp (h.trans_lt (leading_spec hnum hden).2))

/-! ### The number nearest to a quotient -/

/-- The exponent that a quotient is rounded with. -/
def roundingExponent (num den : Nat) : Int := max minExponent (leading num den - 52)

/-- The quotient in units of its last digit, rounded. -/
def rounded (num den : Nat) : Nat :=
  roundDiv (scaled num den (roundingExponent num den)).1
    (scaled num den (roundingExponent num den)).2

/-- A quotient is rounded in units of its last digit, unless it is too large. -/
lemma ofRatio_spec (negative : Bool) (hnum : 0 < num) (den : Nat) :
    (maxExponent ≤ roundingExponent num den ∧ ofRatio negative num den = .infinite negative) ∨
      ∃ m e, ofRatio negative num den = .finite negative m e ∧
        worth m e = rounded num den * 2 ^ roundingExponent num den := by
  have hround : ofRatio negative num den =
      if rounded num den = twoTo 53 then
        if maxExponent < roundingExponent num den + 1 then .infinite negative
        else .finite negative (twoTo 52) (roundingExponent num den + 1)
      else
        if maxExponent < roundingExponent num den then .infinite negative
        else .finite negative (rounded num den) (roundingExponent num den) := by
    rw [ofRatio, if_neg hnum.ne', rounded, roundingExponent]
    dsimp only
    split <;> rfl
  rw [hround]
  by_cases hcarry : rounded num den = twoTo 53
  · rw [if_pos hcarry]
    by_cases hlarge : maxExponent < roundingExponent num den + 1
    · rw [if_pos hlarge]
      exact .inl ⟨by omega, rfl⟩
    · rw [if_neg hlarge]
      refine .inr ⟨_, _, rfl, ?_⟩
      rw [worth, hcarry, twoTo_cast, twoTo_cast, zpow_add_one₀ two_ne_zero]
      ring
  · rw [if_neg hcarry]
    by_cases hlarge : maxExponent < roundingExponent num den
    · rw [if_pos hlarge]
      exact .inl ⟨hlarge.le, rfl⟩
    · rw [if_neg hlarge]
      exact .inr ⟨_, _, rfl, rfl⟩

/-- A quotient is off by half of its last digit at most once it is rounded. -/
lemma abs_rounded_sub_le (hden : 0 < den) :
    |(rounded num den * 2 ^ roundingExponent num den : ℚ) - num / den| ≤
      2 ^ (roundingExponent num den - 1) := by
  obtain ⟨hpos, hscaled⟩ := scaled_spec num hden (roundingExponent num den)
  have hround := abs_roundDiv_sub_le (scaled num den (roundingExponent num den)).1 hpos
  have hunit : (0 : ℚ) < 2 ^ roundingExponent num den := by positivity
  have hfactor : (rounded num den * 2 ^ roundingExponent num den : ℚ) - num / den =
      (rounded num den - num / den * 2 ^ (-roundingExponent num den)) *
        2 ^ roundingExponent num den := by
    rw [sub_mul, mul_assoc, ← zpow_add₀ two_ne_zero, neg_add_cancel, zpow_zero, mul_one]
  rw [hscaled] at hround
  rw [hfactor, abs_mul, abs_of_pos hunit, zpow_sub_one₀ two_ne_zero]
  calc _ ≤ 1 / 2 * (2 : ℚ) ^ roundingExponent num den :=
        mul_le_mul_of_nonneg_right hround hunit.le
    _ = 2 ^ roundingExponent num den * 2⁻¹ := by ring

/-- A whole number is rounded to itself if its last digit is no larger than one. -/
lemma rounded_of_dvd (hden : 0 < den) (h : den ∣ num) (hunit : roundingExponent num den ≤ 0) :
    (rounded num den * 2 ^ roundingExponent num den : ℚ) = num / den := by
  obtain ⟨hpos, hscaled⟩ := scaled_spec num hden (roundingExponent num den)
  have hdvd : (scaled num den (roundingExponent num den)).2 ∣
      (scaled num den (roundingExponent num den)).1 := by
    rw [scaled]
    split
    · next hnonneg =>
      have hzero : roundingExponent num den = 0 := by omega
      rw [hzero]
      simpa [twoTo] using h
    · exact h.mul_right _
  rw [rounded, roundDiv_of_dvd hpos hdvd, hscaled, mul_assoc, ← zpow_add₀ two_ne_zero,
    neg_add_cancel, zpow_zero, mul_one]

/-- A quotient below a power of two is met to within 54 binary places less, and exactly if it is a
whole number of at most 53 places. -/
theorem ofRatio_near {K : Int} (hK : -1021 ≤ K) (hK' : K ≤ 1000) (hden : 0 < den)
    (h : (num / den : ℚ) < 2 ^ K) (negative : Bool) :
    ∃ m e, ofRatio negative num den = .finite negative m e ∧
      |worth m e - num / den| ≤ 2 ^ (K - 54) ∧
      (den ∣ num → K ≤ 53 → worth m e = num / den) := by
  rcases Nat.eq_zero_or_pos num with rfl | hnum
  · refine ⟨0, minExponent, rfl, ?_, fun _ _ => ?_⟩
    · simp only [worth, Nat.cast_zero, zero_mul, zero_div, sub_zero, abs_zero]
      positivity
    · simp [worth]
  · have hleading := leading_lt hnum hden h
    have hexponent : roundingExponent num den ≤ K - 53 := by
      rw [roundingExponent, minExponent]
      omega
    rcases ofRatio_spec negative hnum den with ⟨hlarge, -⟩ | ⟨m, e, hfinite, hworth⟩
    · rw [maxExponent] at hlarge
      omega
    · refine ⟨m, e, hfinite, ?_, fun hdvd hsmall => ?_⟩
      · rw [hworth]
        refine (abs_rounded_sub_le hden).trans (zpow_le_zpow_right₀ one_le_two ?_)
        omega
      · rw [hworth]
        exact rounded_of_dvd hden hdvd (by omega)

/-- A quotient in units of its last digit has 53 places, unless the smallest unit is too large. -/
lemma le_rounded (hnum : 0 < num) (hden : 0 < den)
    (hexponent : roundingExponent num den = leading num den - 52) :
    (2 : ℚ) ^ 52 ≤ rounded num den := by
  obtain ⟨hpos, hscaled⟩ := scaled_spec num hden (roundingExponent num den)
  have hpos' : (0 : ℚ) < (scaled num den (roundingExponent num den)).2 := Nat.cast_pos.mpr hpos
  have hplaces : leading num den + -(leading num den - 52) = (52 : Nat) := by
    rw [Nat.cast_ofNat]
    omega
  have hquotient : (2 : ℚ) ^ 52 ≤ (scaled num den (roundingExponent num den)).1 /
      (scaled num den (roundingExponent num den)).2 := by
    rw [hscaled, hexponent]
    calc (2 : ℚ) ^ 52 = 2 ^ leading num den * 2 ^ (-(leading num den - 52)) := by
          rw [← zpow_add₀ two_ne_zero, hplaces, zpow_natCast]
      _ ≤ num / den * 2 ^ (-(leading num den - 52)) :=
        mul_le_mul_of_nonneg_right (leading_spec hnum hden).1 (by positivity)
  rw [le_div_iff₀ hpos'] at hquotient
  have hmantissa : 2 ^ 52 ≤ rounded num den := le_roundDiv hpos (by exact_mod_cast hquotient)
  exact_mod_cast hmantissa

/-- A quotient that is not below a power of two is not rounded below it. -/
theorem le_worth_of_ofRatio {K : Int} (hK : -1022 ≤ K) (hden : 0 < den)
    (h : (2 : ℚ) ^ K ≤ num / den) {negative negative' : Bool} {m : Nat} {e : Int}
    (hfinite : ofRatio negative num den = .finite negative' m e) :
    negative' = negative ∧ 2 ^ K ≤ worth m e := by
  have hnum : 0 < num := by
    rcases Nat.eq_zero_or_pos num with rfl | hnum
    · have hpos : (0 : ℚ) < 2 ^ K := by positivity
      simp only [Nat.cast_zero, zero_div] at h
      exact absurd h (not_le.mpr hpos)
    · exact hnum
  have hleading := le_leading hnum hden h
  have hexponent : roundingExponent num den = leading num den - 52 := by
    rw [roundingExponent, minExponent]
    omega
  have hplaces : leading num den = (52 : Nat) + (leading num den - 52) := by
    rw [Nat.cast_ofNat]
    omega
  rcases ofRatio_spec negative hnum den with ⟨-, hinfinite⟩ | ⟨m', e', hfinite', hworth⟩
  · rw [hinfinite] at hfinite
    cases hfinite
  · rw [hfinite'] at hfinite
    obtain ⟨rfl, rfl, rfl⟩ := Binary64.finite.inj hfinite
    refine ⟨rfl, ?_⟩
    rw [hworth, hexponent]
    calc (2 : ℚ) ^ K ≤ 2 ^ leading num den := zpow_le_zpow_right₀ one_le_two hleading
      _ = 2 ^ 52 * 2 ^ (leading num den - 52) := by
        rw [← zpow_natCast, ← zpow_add₀ two_ne_zero, ← hplaces]
      _ ≤ rounded num den * 2 ^ (leading num den - 52) :=
        mul_le_mul_of_nonneg_right (le_rounded hnum hden hexponent) (by positivity)

end

end Binary64

end Scaffold.Number
