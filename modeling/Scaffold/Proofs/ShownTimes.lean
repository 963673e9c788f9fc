import Mathlib.Tactic.NormNum
import Scaffold.Calendar
import Scaffold.Proofs.Rounding

/-!
# Times that can be shown

Which moments the calendar can show. A moment within reach of the calendar comes to the second that
it lies in, however its milliseconds are divided: neither rounding can take it to the next one,
because a millisecond is much more than what is rounded off. A moment farther away than that does
not come to a second within reach. So it is the years that decide.
-/

namespace Scaffold.Calendar

open Number Binary64

/-! ### Seconds -/

section Seconds

/-- What a division leaves comes to the parts that it is, to within one, unless there are too many
parts to a whole. -/
lemma abs_partsLeft_sub_lt {parts den : Nat} (num : Nat) (hparts : parts ≤ twoTo 20)
    (hden : 0 < den) :
    |(partsLeft parts num den : ℚ) - (num % den : Nat) * parts / den| < 1 := by
  have hpos : (0 : ℚ) < den := Nat.cast_pos.mpr hden
  have hrest : num % den < den := Nat.mod_lt num hden
  have hbound : (((num % den * parts : Nat) : ℚ) / den) < 2 ^ (20 : Int) := by
    have hless : num % den * parts < twoTo 20 * den := by
      calc num % den * parts ≤ num % den * twoTo 20 := Nat.mul_le_mul_left _ hparts
        _ < den * twoTo 20 := Nat.mul_lt_mul_of_pos_right hrest (by decide)
        _ = twoTo 20 * den := Nat.mul_comm _ _
    rw [div_lt_iff₀ hpos, ← zpow_toNat (by decide), ← twoTo_cast]
    exact_mod_cast hless
  obtain ⟨m, e, hfinite, hnear, -⟩ := ofRatio_near (by decide) (by decide) hden hbound false
  have hround := abs_roundDiv_sub_le (ratio m e).1 (ratio_spec m e).1
  have hsmall : (2 : ℚ) ^ (20 - 54 : Int) < 1 / 2 := by norm_num
  have hparts : partsLeft parts num den = roundDiv (ratio m e).1 (ratio m e).2 := by
    rw [partsLeft, hfinite]
  rw [(ratio_spec m e).2] at hround
  rw [Nat.cast_mul] at hnear
  rw [abs_le] at hround hnear
  rw [hparts, abs_lt]
  constructor
  · linarith
  · linarith

/-- Seconds whose fraction is a number of milliseconds, as they have come out of a division. -/
structure IsNearMillis (mantissa : Nat) (exponent : Int) (q k : Nat) : Prop where
  lt : k < 1000
  near : |worth mantissa exponent - (q + k / 1000)| ≤ 1 / 65536
  exact : k = 0 → worth mantissa exponent = q

section Near

variable {mantissa : Nat} {exponent : Int} {q k num den : Nat}

lemma IsNearMillis.whole_eq (h : IsNearMillis mantissa exponent q k)
    (hratio : ratio mantissa exponent = (num, den)) : num / den = q := by
  obtain ⟨hden, hworth⟩ := ratio_spec mantissa exponent
  rw [hratio] at hden hworth
  have hpos : (0 : ℚ) < den := Nat.cast_pos.mpr hden
  have hk : (k : ℚ) ≤ 999 := by exact_mod_cast Nat.le_of_lt_succ h.lt
  have hnear := abs_le.mp h.near
  have hlow : (q : ℚ) ≤ worth mantissa exponent := by
    rcases Nat.eq_zero_or_pos k with hnone | hsome
    · exact (h.exact hnone).ge
    · have hone : (1 : ℚ) ≤ k := by exact_mod_cast hsome
      linarith
  have hhigh : worth mantissa exponent < q + 1 := by linarith
  rw [← hworth] at hlow hhigh
  rw [le_div_iff₀ hpos] at hlow
  rw [div_lt_iff₀ hpos] at hhigh
  refine Nat.div_eq_of_lt_le ?_ ?_
  · exact_mod_cast hlow
  · exact_mod_cast hhigh

lemma secondMicros_cast : (secondMicros : ℚ) = 1000000 := by
  rw [secondMicros, Nat.cast_ofNat]

/-- The microseconds are none exactly if the milliseconds are none, and never make a second. -/
lemma IsNearMillis.micros (h : IsNearMillis mantissa exponent q k)
    (hratio : ratio mantissa exponent = (num, den)) :
    (partsLeft secondMicros num den = 0 ↔ k = 0) ∧
      partsLeft secondMicros num den < secondMicros := by
  obtain ⟨hden, hworth⟩ := ratio_spec mantissa exponent
  rw [hratio] at hden hworth
  have hpos : (0 : ℚ) < den := Nat.cast_pos.mpr hden
  have hk : (k : ℚ) ≤ 999 := by exact_mod_cast Nat.le_of_lt_succ h.lt
  have hrest : ((num % den : Nat) : ℚ) * 1000000 / den =
      (worth mantissa exponent - q) * 1000000 := by
    have hdivision : (num : ℚ) = den * q + (num % den : Nat) := by
      rw [← h.whole_eq hratio]
      exact_mod_cast (Nat.div_add_mod num den).symm
    rw [← hworth, div_eq_iff hpos.ne', sub_mul, sub_mul, mul_right_comm,
      div_mul_cancel₀ _ hpos.ne', hdivision]
    ring
  have hparts := abs_partsLeft_sub_lt num (by decide : secondMicros ≤ twoTo 20) hden
  rw [secondMicros_cast, hrest, abs_lt] at hparts
  have hnear := abs_le.mp h.near
  refine ⟨⟨fun hnone => ?_, fun hnone => ?_⟩, ?_⟩
  · rw [hnone, Nat.cast_zero] at hparts
    by_contra hne
    have hone : (1 : ℚ) ≤ k := by exact_mod_cast Nat.pos_of_ne_zero hne
    linarith
  · rw [h.exact hnone, sub_self, zero_mul, sub_zero] at hparts
    have hlt : partsLeft secondMicros num den < 1 := by exact_mod_cast hparts.2
    omega
  · have hlt : (partsLeft secondMicros num den : ℚ) < secondMicros := by
      rw [secondMicros_cast]
      linarith
    exact_mod_cast hlt

lemma wholeSeconds_of_ratio (hratio : ratio mantissa exponent = (num, den)) (negative : Bool) :
    wholeSeconds negative mantissa exponent =
      if negative then
        if partsLeft secondMicros num den = 0 then -Int.ofNat (num / den)
        else -Int.ofNat (num / den) - 1
      else
        Int.ofNat
          (if secondMicros ≤ partsLeft secondMicros num den then num / den + 1
          else num / den) := by
  rw [wholeSeconds, hratio]

lemma IsNearMillis.wholeSeconds_eq (h : IsNearMillis mantissa exponent q k) (negative : Bool) :
    wholeSeconds negative mantissa exponent =
      if negative then (if k = 0 then -(q : Int) else -(q : Int) - 1) else q := by
  obtain ⟨num, den, hratio⟩ : ∃ num den, ratio mantissa exponent = (num, den) := ⟨_, _, rfl⟩
  obtain ⟨hnone, hlt⟩ := h.micros hratio
  rw [wholeSeconds_of_ratio hratio, h.whole_eq hratio, if_neg (Nat.not_le.mpr hlt)]
  simp only [hnone, Int.ofNat_eq_natCast]

end Near

/-- The milliseconds that the calendar is sure to be within reach of. -/
def nearMillis : Nat := 1000 * twoTo 38

/-- A moment within reach comes to the second that it lies in. -/
lemma secondsOfInt_eq {ms : Int} (h : ms.natAbs < nearMillis) :
    secondsOfInt ms = .ok (ms.fdiv 1000) := by
  have hbound : (ms.natAbs / (1000 : Nat) : ℚ) < 2 ^ (38 : Int) := by
    rw [div_lt_iff₀ (by norm_num), ← zpow_toNat (by decide), ← twoTo_cast, mul_comm]
    exact_mod_cast h
  obtain ⟨m, e, hfinite, hnear, hexact⟩ := ofRatio_near (by decide) (by decide)
    (by decide : 0 < 1000) hbound (decide (ms < 0))
  have hdivision : (ms.natAbs : ℚ) / (1000 : Nat) =
      (ms.natAbs / 1000 : Nat) + (ms.natAbs % 1000 : Nat) / 1000 := by
    have hsum : (ms.natAbs : ℚ) = 1000 * (ms.natAbs / 1000 : Nat) + (ms.natAbs % 1000 : Nat) := by
      exact_mod_cast (Nat.div_add_mod ms.natAbs 1000).symm
    rw [Nat.cast_ofNat, div_eq_iff (by norm_num), hsum]
    ring
  have hmillis : IsNearMillis m e (ms.natAbs / 1000) (ms.natAbs % 1000) := by
    refine ⟨Nat.mod_lt _ (by decide), ?_, fun hnone => ?_⟩
    · rw [← hdivision]
      refine hnear.trans (le_of_eq ?_)
      norm_num
    · rw [hexact (Nat.dvd_of_mod_eq_zero hnone) (by decide), hdivision, hnone, Nat.cast_zero,
        zero_div, add_zero]
  have hseconds : wholeSeconds (decide (ms < 0)) m e = ms.fdiv 1000 := by
    rw [hmillis.wholeSeconds_eq, Int.fdiv_eq_ediv_of_nonneg _ (by decide)]
    by_cases hneg : ms < 0
    · rw [if_pos (decide_eq_true hneg)]
      split
      · omega
      · omega
    · rw [if_neg (by simpa using hneg)]
      omega
  rw [secondsOfInt, hfinite]
  exact congrArg Except.ok hseconds

/-- A moment out of reach comes to no second within reach. -/
lemma le_of_secondsOfInt {ms s : Int} (h : nearMillis ≤ ms.natAbs)
    (hs : secondsOfInt ms = .ok s) : 2 ^ 38 ≤ s.natAbs := by
  have hbound : (2 : ℚ) ^ (38 : Int) ≤ ms.natAbs / (1000 : Nat) := by
    rw [le_div_iff₀ (by norm_num), ← zpow_toNat (by decide), ← twoTo_cast, mul_comm]
    exact_mod_cast h
  rw [secondsOfInt] at hs
  split at hs
  · next negative m e hfinite =>
    obtain ⟨-, hworth⟩ := le_worth_of_ofRatio (by decide) (by decide : 0 < 1000) hbound hfinite
    obtain rfl := Except.ok.inj hs
    obtain ⟨num, den, hratio⟩ : ∃ num den, ratio m e = (num, den) := ⟨_, _, rfl⟩
    obtain ⟨hden, hquotient⟩ := ratio_spec m e
    rw [hratio] at hden hquotient
    have hwhole : 2 ^ 38 ≤ num / den := by
      rw [← hquotient, le_div_iff₀ (Nat.cast_pos.mpr hden), zpow_ofNat] at hworth
      rw [Nat.le_div_iff_mul_le hden]
      exact_mod_cast hworth
    rw [wholeSeconds_of_ratio hratio]
    simp only [Int.ofNat_eq_natCast]
    split
    · split
      · omega
      · omega
    · split
      · omega
      · omega
  · cases hs

end Seconds

/-! ### Years -/

/-- The last day of a year has the number 365 at most. The first day has the number zero. -/
lemma dayOfYear_le {n y : Nat} (hlt : n < 146097)
    (hy : y = (n - n / 1460 + n / 36524 - n / 146096) / 365) :
    n - (365 * y + y / 4 - y / 100) ≤ 365 := by
  by_cases hlast : n < 146096
  · have hcycle : n / 146096 = 0 := by omega
    have hleap : n / 1460 ≤ y / 4 + 1 := by omega
    have hcentury : y / 100 ≤ n / 36524 := by omega
    rw [hcycle] at hy
    have hyear : 365 * y ≤ n - n / 1460 + n / 36524 ∧
        n - n / 1460 + n / 36524 ≤ 365 * y + 364 := by omega
    have hdays : n / 1460 ≤ n := by omega
    have hyears : y / 100 ≤ y / 4 := by omega
    -- what the quotients are does not matter any more
    generalize n / 1460 = a at *
    generalize n / 36524 = b at *
    generalize y / 100 = c at *
    generalize y / 4 = d at *
    omega
  · omega

/-- The days of the years that can be shown. -/
lemma year_dayOf_iff (days : Int) :
    (1 ≤ (dayOf days).year ↔ -719162 ≤ days) ∧ ((dayOf days).year ≤ 9999 ↔ days ≤ 2932896) := by
  rw [dayOf]
  dsimp only
  rw [Int.fdiv_eq_ediv_of_nonneg _ (by decide), Int.fmod_eq_emod_of_nonneg _ (by decide)]
  obtain ⟨z, hz⟩ : ∃ z, z = days + 719468 := ⟨_, rfl⟩
  obtain ⟨cycle, hcycle⟩ : ∃ cycle, cycle = z / 146097 := ⟨_, rfl⟩
  obtain ⟨n, hn⟩ : ∃ n, n = (z % 146097).toNat := ⟨_, rfl⟩
  obtain ⟨y, hy⟩ : ∃ y, y = (n - n / 1460 + n / 36524 - n / 146096) / 365 := ⟨_, rfl⟩
  obtain ⟨r, hr⟩ : ∃ r, r = n - (365 * y + y / 4 - y / 100) := ⟨_, rfl⟩
  rw [← hz, ← hcycle, ← hn, ← hy, ← hr]
  have hlt : n < 146097 := by omega
  have hdivision : z = cycle * 146097 + n := by omega
  have hyear : y ≤ 399 := by omega
  have hday : r ≤ 365 := hr ▸ dayOfYear_le hlt hy
  -- years begin in spring here: the first and the last of a cycle hold the two ends of the calendar
  have hfirst : n < 306 ↔ y = 0 ∧ r < 306 := by omega
  have hlast : 146037 ≤ n ↔ y = 399 ∧ 306 ≤ r := by omega
  clear hn hy hr hcycle
  have hmonth : (if (5 * r + 2) / 153 < 10 then (5 * r + 2) / 153 + 3
      else (5 * r + 2) / 153 - 9) ≤ 2 ↔ 306 ≤ r := by
    split
    · omega
    · omega
  simp only [hmonth, Int.ofNat_eq_natCast]
  by_cases hnext : 306 ≤ r
  · rw [if_pos hnext]
    omega
  · rw [if_neg hnext]
    omega

/-- The first second that can be shown: that of the second day of the year 1. -/
def firstSecond : Int := -62135510400

/-- The last second that can be shown: that of the year 9999. -/
def lastSecond : Int := 253402300799

lemma year_yearOf_iff (s : Int) :
    (1 ≤ yearOf s ↔ firstSecond - daySeconds ≤ s) ∧ (yearOf s ≤ 9999 ↔ s ≤ lastSecond) := by
  obtain ⟨hfirst, hlast⟩ := year_dayOf_iff (s.fdiv daySeconds)
  rw [yearOf, hfirst, hlast, Int.fdiv_eq_ediv_of_nonneg _ (by decide)]
  simp only [firstSecond, lastSecond, daySeconds]
  omega

lemma checkYear_eq_ok_iff {s : Int} :
    checkYear s = .ok () ↔ firstSecond - daySeconds ≤ s ∧ s ≤ lastSecond := by
  obtain ⟨hfirst, hlast⟩ := year_yearOf_iff s
  rw [← hfirst, ← hlast, checkYear]
  split
  · next h =>
    refine iff_of_false (by simp) ?_
    omega
  · next h =>
    refine iff_of_true rfl ?_
    omega

lemma checkYears_eq_ok_iff {s : Int} {t : String} :
    (do
      checkYear s
      checkYear (s - daySeconds)
      return secondText s) = Except.ok t ↔
      (firstSecond ≤ s ∧ s ≤ lastSecond) ∧ secondText s = t := by
  have hnow := checkYear_eq_ok_iff (s := s)
  have hbefore := checkYear_eq_ok_iff (s := s - daySeconds)
  have hin : (firstSecond ≤ s ∧ s ≤ lastSecond) ↔
      checkYear s = .ok () ∧ checkYear (s - daySeconds) = .ok () := by
    rw [hnow, hbefore]
    simp only [daySeconds]
    omega
  rw [hin]
  cases checkYear s with
  | error e => exact iff_of_false (by rintro ⟨⟩) (by simp)
  | ok u =>
    cases checkYear (s - daySeconds) with
    | error e => exact iff_of_false (by rintro ⟨⟩) (by simp)
    | ok u' =>
      constructor
      · intro h
        exact ⟨⟨rfl, rfl⟩, Except.ok.inj h⟩
      · rintro ⟨-, rfl⟩
        rfl

/-- A second is shown exactly if it can be. -/
lemma showSecond_eq_ok_iff {s : Int} {t : String} :
    showSecond s = .ok t ↔ (firstSecond ≤ s ∧ s ≤ lastSecond) ∧ secondText s = t := by
  have hyear := year_yearOf_iff s
  have hpower : ((twoTo 63 : Nat) : Int) = 9223372036854775808 ∧
      ((twoTo 31 : Nat) : Int) = 2147483648 := by decide
  rw [showSecond]
  simp only [Int.ofNat_eq_natCast, fitsSystem, hpower, Bool.not_eq_true', Bool.and_eq_false_iff,
    decide_eq_false_iff_not]
  -- what the system does not take lies farther away than the years that can be shown
  split
  · next hfar =>
    refine iff_of_false (by simp) ?_
    simp only [firstSecond, lastSecond]
    omega
  · split
    · next hfar =>
      refine iff_of_false (by simp) ?_
      simp only [firstSecond, lastSecond, daySeconds] at hyear ⊢
      omega
    · exact checkYears_eq_ok_iff

/-! ### Moments -/

/-- A moment is shown exactly if the second that it lies in can be, and then as that second. -/
theorem showInstant_eq_ok_iff {ms : Int} {t : String} :
    showInstant ms = .ok t ↔
      (1000 * firstSecond ≤ ms ∧ ms < 1000 * (lastSecond + 1)) ∧
        secondText (ms.fdiv 1000) = t := by
  have hreach : nearMillis = 274877906944000 := by decide
  by_cases hnear : ms.natAbs < nearMillis
  · have hshow : showInstant ms = showSecond (ms.fdiv 1000) := by
      rw [showInstant, secondsOfInt_eq hnear]
      rfl
    rw [hshow, showSecond_eq_ok_iff, Int.fdiv_eq_ediv_of_nonneg _ (by decide)]
    refine and_congr_left fun _ => ?_
    simp only [firstSecond, lastSecond]
    omega
  · refine iff_of_false ?_ ?_
    · intro h
      cases hseconds : secondsOfInt ms with
      | error e =>
        rw [showInstant, hseconds] at h
        cases h
      | ok s =>
        have hfar := le_of_secondsOfInt (Nat.not_lt.mp hnear) hseconds
        rw [showInstant, hseconds] at h
        have hin := (showSecond_eq_ok_iff.mp h).1
        simp only [firstSecond, lastSecond] at hin
        omega
    · simp only [firstSecond, lastSecond]
      omega

end Scaffold.Calendar
