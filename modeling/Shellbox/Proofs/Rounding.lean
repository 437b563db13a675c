import Mathlib.Algebra.Order.Field.Power
import Mathlib.Data.Nat.Log
import Mathlib.Tactic.FieldSimp
import Mathlib.Tactic.Linarith
import Mathlib.Tactic.NormNum
import Mathlib.Tactic.Positivity
import Mathlib.Tactic.Ring
import Shellbox.Decimal.Double
/-!
# Which quotients have a double

A quotient is rounded in three steps: it is scaled by a power of two (`scale_ratio`), the power
being chosen from the binary order of the quotient (`binaryOrder_spec`) so that the result has 53
bits, and the scaled quotient is rounded to a whole number (`le_roundQuotient`,
`roundQuotient_le`). It has no double only if it is `2 ^ 1023` at least
(`isSome_ofRatio_of_lt`), and it does have one only if it is below `2 ^ 1024`
(`lt_of_isSome_ofRatio`). The two bounds are a factor of two apart, so dividing a number by two or
more never takes it out of range (`isSome_ofRatio_of_two_le`).
-/

namespace Shellbox.Double

variable {num den : ℕ}

/-- Scaling multiplies a quotient by a power of two. -/
theorem scale_ratio (num den : ℕ) (power : ℤ) :
    ((scale num den power).1 : ℚ) / (scale num den power).2 = num / den * 2 ^ power := by
  unfold scale
  split_ifs with hpower
  · obtain ⟨k, rfl⟩ := Int.eq_ofNat_of_zero_le hpower
    simp only [Int.toNat_natCast, Nat.pow_eq, Nat.cast_mul, Nat.cast_pow, Nat.cast_ofNat,
      zpow_natCast]
    ring
  · obtain ⟨k, hk⟩ := Int.eq_ofNat_of_zero_le (show 0 ≤ -power by omega)
    obtain rfl : power = -k := by omega
    simp only [neg_neg, Int.toNat_natCast, Nat.pow_eq, Nat.cast_mul, Nat.cast_pow, Nat.cast_ofNat,
      zpow_neg, zpow_natCast, div_eq_mul_inv, mul_inv, mul_assoc]

theorem scale_snd_pos (hden : 0 < den) (num : ℕ) (power : ℤ) : 0 < (scale num den power).2 := by
  unfold scale
  split_ifs
  · exact hden
  · exact Nat.mul_pos hden (Nat.pow_pos (by norm_num))

/-- The power of two of a number's size is not above it, and the next one is. -/
theorem log2_spec (h : 0 < num) :
    (2 : ℚ) ^ (num.log2 : ℤ) ≤ num ∧ (num : ℚ) < 2 ^ ((num.log2 : ℤ) + 1) := by
  constructor
  · rw [zpow_natCast]
    exact_mod_cast Nat.log2_self_le h.ne'
  · rw [← Nat.cast_succ, zpow_natCast]
    exact_mod_cast Nat.lt_log2_self

/-- The binary order of a quotient: the quotient lies between that power of two and the next. -/
theorem binaryOrder_spec (hnum : 0 < num) (hden : 0 < den) :
    (2 : ℚ) ^ binaryOrder num den ≤ num / den ∧
      (num : ℚ) / den < 2 ^ (binaryOrder num den + 1) := by
  obtain ⟨hnumLe, hnumLt⟩ := log2_spec hnum
  obtain ⟨hdenLe, hdenLt⟩ := log2_spec hden
  have hdenPos : (0 : ℚ) < den := by exact_mod_cast hden
  set guess : ℤ := (num.log2 : ℤ) - den.log2 with hguess
  have hlow : (2 : ℚ) ^ (guess - 1) ≤ num / den := by
    rw [le_div_iff₀ hdenPos]
    calc (2 : ℚ) ^ (guess - 1) * den
        ≤ 2 ^ (guess - 1) * 2 ^ ((den.log2 : ℤ) + 1) := by gcongr
      _ = 2 ^ (num.log2 : ℤ) := by
          rw [← zpow_add₀ two_ne_zero, hguess]
          congr 1
          ring
      _ ≤ num := hnumLe
  have hhigh : (num : ℚ) / den < 2 ^ (guess + 1) := by
    rw [div_lt_iff₀ hdenPos]
    calc (num : ℚ) < 2 ^ ((num.log2 : ℤ) + 1) := hnumLt
      _ = 2 ^ (guess + 1) * 2 ^ (den.log2 : ℤ) := by
          rw [← zpow_add₀ two_ne_zero, hguess]
          congr 1
          ring
      _ ≤ 2 ^ (guess + 1) * den := by gcongr
  -- the comparison in the definition settles which of the two powers next to the guess it is
  have hscaled := scale_ratio num den (-guess)
  have hpos := scale_snd_pos hden num (-guess)
  have hbelow : (scale num den (-guess)).1 < (scale num den (-guess)).2 ↔
      (num : ℚ) / den < 2 ^ guess := by
    have hpos' : (0 : ℚ) < (scale num den (-guess)).2 := by exact_mod_cast hpos
    rw [← Nat.cast_lt (α := ℚ), ← div_lt_one hpos', hscaled, zpow_neg, ← div_eq_mul_inv,
      div_lt_one (zpow_pos two_pos _)]
  have horder : binaryOrder num den =
      if (scale num den (-guess)).1 < (scale num den (-guess)).2 then guess - 1 else guess := rfl
  rw [horder]
  split_ifs with hlt
  · exact ⟨hlow, by rw [sub_add_cancel]; exact hbelow.1 hlt⟩
  · exact ⟨not_lt.1 fun h => hlt (hbelow.2 h), hhigh⟩

/-- Rounding to a whole number goes down at most to the whole part. -/
theorem le_roundQuotient (num den : ℕ) : num / den ≤ roundQuotient num den := by
  unfold roundQuotient
  dsimp only
  split_ifs <;> omega

/-- Rounding to a whole number goes up at most to the next one. -/
theorem roundQuotient_le (num den : ℕ) : roundQuotient num den ≤ num / den + 1 := by
  unfold roundQuotient
  dsimp only
  split_ifs <;> omega

/-- A quotient rounded to a double, no matter whether it is in range. -/
def rounded (num den : ℕ) : Double :=
  let scaled := scale num den (-exponentFor num den)
  ⟨roundQuotient scaled.1 scaled.2, exponentFor num den⟩

theorem exponent_rounded (num den : ℕ) :
    (rounded num den).exponent = max (binaryOrder num den - 52) (-1074) := rfl

theorem ofRatio_eq (hnum : 0 < num) :
    ofRatio num den = if (rounded num den).isFinite then some (rounded num den) else none := by
  unfold ofRatio
  rw [if_neg hnum.ne']
  rfl

/-- The quotient that is rounded to the mantissa. -/
theorem scaled_ratio (hden : 0 < den) (num : ℕ) :
    let scaled := scale num den (-(rounded num den).exponent)
    (0 : ℚ) < scaled.2 ∧
      (scaled.1 : ℚ) / scaled.2 = num / den * 2 ^ (-(rounded num den).exponent) :=
  ⟨by exact_mod_cast scale_snd_pos hden num _, scale_ratio num den _⟩

/-- The mantissa has 53 bits at most, or is the next power of two. -/
theorem mantissa_rounded_le (hnum : 0 < num) (hden : 0 < den) :
    (rounded num den).mantissa ≤ 2 ^ 53 := by
  obtain ⟨hpos, hscaled⟩ := scaled_ratio hden num
  obtain ⟨-, hhigh⟩ := binaryOrder_spec hnum hden
  have hexponent := exponent_rounded num den
  have hlt : ((scale num den (-(rounded num den).exponent)).1 : ℚ) /
      (scale num den (-(rounded num den).exponent)).2 < 2 ^ 53 := by
    rw [hscaled]
    calc (num : ℚ) / den * 2 ^ (-(rounded num den).exponent)
        < 2 ^ (binaryOrder num den + 1) * 2 ^ (-(rounded num den).exponent) := by gcongr
      _ = 2 ^ (binaryOrder num den + 1 - (rounded num den).exponent) := by
          rw [← zpow_add₀ two_ne_zero, sub_eq_add_neg]
      _ ≤ 2 ^ (53 : ℤ) := zpow_le_zpow_right₀ one_le_two (by omega)
      _ = 2 ^ 53 := by norm_num
  refine (roundQuotient_le _ _).trans (Nat.div_lt_of_lt_mul ?_)
  rw [div_lt_iff₀ hpos] at hlt
  rw [mul_comm]
  exact_mod_cast hlt

/-- The mantissa has 53 bits at least, unless the quotient is below the range of full precision. -/
theorem le_mantissa_rounded (hnum : 0 < num) (hden : 0 < den)
    (horder : -1022 ≤ binaryOrder num den) : 2 ^ 52 ≤ (rounded num den).mantissa := by
  obtain ⟨hpos, hscaled⟩ := scaled_ratio hden num
  obtain ⟨hlow, -⟩ := binaryOrder_spec hnum hden
  have hexponent := exponent_rounded num den
  have hle : (2 : ℚ) ^ 52 ≤ ((scale num den (-(rounded num den).exponent)).1 : ℚ) /
      (scale num den (-(rounded num den).exponent)).2 := by
    rw [hscaled]
    calc (2 : ℚ) ^ 52 = 2 ^ (binaryOrder num den - (rounded num den).exponent) := by
          rw [show binaryOrder num den - (rounded num den).exponent = 52 by omega]
          norm_num
      _ = 2 ^ binaryOrder num den * 2 ^ (-(rounded num den).exponent) := by
          rw [← zpow_add₀ two_ne_zero, sub_eq_add_neg]
      _ ≤ num / den * 2 ^ (-(rounded num den).exponent) := by gcongr
  refine le_trans ?_ (le_roundQuotient _ _)
  rw [Nat.le_div_iff_mul_le (by exact_mod_cast hpos)]
  rw [le_div_iff₀ hpos] at hle
  exact_mod_cast hle

theorem isFinite_iff (value : Double) :
    value.isFinite ↔ value.mantissa = 0 ∨ value.exponent + value.mantissa.log2 < 1024 := by
  rw [isFinite, Bool.or_eq_true, decide_eq_true_iff, decide_eq_true_iff]

/-- A quotient below `2 ^ 1023` has a double. -/
theorem isSome_ofRatio_of_lt (hden : 0 < den) (h : (num : ℚ) / den < 2 ^ (1023 : ℤ)) :
    (ofRatio num den).isSome := by
  rcases Nat.eq_zero_or_pos num with rfl | hnum
  · rfl
  obtain ⟨hlow, -⟩ := binaryOrder_spec hnum hden
  have horder : binaryOrder num den < 1023 :=
    (zpow_lt_zpow_iff_right₀ one_lt_two).1 (hlow.trans_lt h)
  have hlog : (rounded num den).mantissa.log2 ≤ 53 := by
    rw [Nat.log2_eq_log_two]
    exact (Nat.log_mono_right (mantissa_rounded_le hnum hden)).trans
      (by rw [Nat.log_pow one_lt_two])
  have hexponent := exponent_rounded num den
  have hfinite : (rounded num den).isFinite := (isFinite_iff _).2 (Or.inr (by omega))
  rw [ofRatio_eq hnum, if_pos hfinite]
  rfl

/-- A quotient that has a double is below `2 ^ 1024`. -/
theorem lt_of_isSome_ofRatio (hden : 0 < den) (h : (ofRatio num den).isSome) :
    (num : ℚ) / den < 2 ^ (1024 : ℤ) := by
  rcases Nat.eq_zero_or_pos num with rfl | hnum
  · simp
  by_contra hlarge
  obtain ⟨-, hhigh⟩ := binaryOrder_spec hnum hden
  have horder : 1024 < binaryOrder num den + 1 :=
    (zpow_lt_zpow_iff_right₀ (one_lt_two (α := ℚ))).1 ((not_lt.1 hlarge).trans_lt hhigh)
  have hmantissa := le_mantissa_rounded hnum hden (by omega)
  have hlog : 52 ≤ (rounded num den).mantissa.log2 := by
    rw [Nat.log2_eq_log_two]
    exact Nat.le_log_of_pow_le one_lt_two hmantissa
  have hexponent := exponent_rounded num den
  have hinfinite : ¬(rounded num den).isFinite := by
    rw [isFinite_iff]
    rintro (hzero | hsmall)
    · rw [hzero] at hmantissa
      norm_num at hmantissa
    · omega
  rw [ofRatio_eq hnum, if_neg hinfinite] at h
  cases h

/-- A number that has a double has one after division by two or more. -/
theorem isSome_ofRatio_of_two_le {n : ℕ} (h : (ofRatio n 1).isSome) (hden : 2 ≤ den) :
    (ofRatio n den).isSome := by
  have hn := lt_of_isSome_ofRatio one_pos h
  have hdenPos : (0 : ℚ) < den := by exact_mod_cast (by omega : 0 < den)
  refine isSome_ofRatio_of_lt (by omega) ?_
  rw [Nat.cast_one, div_one] at hn
  rw [div_lt_iff₀ hdenPos]
  calc (n : ℚ) < 2 ^ (1023 + 1 : ℤ) := hn
    _ = 2 ^ (1023 : ℤ) * 2 := by rw [zpow_add₀ two_ne_zero, zpow_one]
    _ ≤ 2 ^ (1023 : ℤ) * den := by
        gcongr
        exact_mod_cast hden

end Shellbox.Double
