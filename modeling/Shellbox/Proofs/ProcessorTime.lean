import Mathlib.Algebra.Order.Floor.Div
import Mathlib.Data.Rat.Floor
import Mathlib.GroupTheory.GroupAction.Ring
import Shellbox.Proofs.Rounding
import Shellbox.Sandbox.Limits
/-!
# The processor time of a child

A child is told its deadline in whole seconds and one more. The deadline is divided by a thousand,
which rounds to a double, and only then rounded up. Rounding to a double goes to the nearest point of
a grid, which has the whole numbers on it as long as its steps are fractions of one; so it never
passes a whole number, but it may reach one from either side, and then rounding up would go wrong by
a second.

A quotient by a thousand that is no whole number is a thousandth away from one at least. Up to a
deadline of `2 ^ 53` there are `2 ^ 9` steps to the whole at least (`exists_exponent_rounded`), so that
half a step is below a thousandth. Hence a whole number is below the rounded quotient exactly if it is
below the exact one, and above it likewise (`mul_le_iff_of_near`, `le_mul_iff_of_near`), and the two
have the same whole numbers next to them (`floor_rounded`, `ceil_rounded`).
-/

namespace Shellbox

namespace Double

variable {num den : ℕ}

/-! ### A fine grid -/

/-- Rounding to a whole number goes half a step at most. -/
theorem roundQuotient_near (num : ℕ) (hden : 0 < den) :
    2 * num ≤ (2 * roundQuotient num den + 1) * den ∧
      2 * (roundQuotient num den * den) ≤ 2 * num + den := by
  have hwhole := Nat.div_add_mod num den
  have hrest := Nat.mod_lt num hden
  unfold roundQuotient
  dsimp only
  generalize num / den = whole at *
  generalize num % den = rest at *
  subst hwhole
  split_ifs <;> constructor <;> nlinarith

section Grid

variable {steps mantissa : ℕ}

/-- A whole number that is not above a quotient is not above the nearest point of a grid, and if the
grid is fine, no other one is. -/
theorem mul_le_iff_of_near (hfine : den < 2 * steps)
    (hbelow : 2 * (num * steps) ≤ (2 * mantissa + 1) * den)
    (habove : 2 * (mantissa * den) ≤ 2 * (num * steps) + den) (hden : 0 < den) (whole : ℕ) :
    whole * steps ≤ mantissa ↔ whole * den ≤ num := by
  constructor
  · intro hgrid
    by_contra hexact
    have hreached : whole * steps * den ≤ mantissa * den := Nat.mul_le_mul_right den hgrid
    have hnum : (num + 1) * steps ≤ whole * den * steps :=
      Nat.mul_le_mul_right steps (not_le.1 hexact)
    nlinarith
  · intro hexact
    by_contra hgrid
    have hpassed : (mantissa + 1) * den ≤ whole * steps * den :=
      Nat.mul_le_mul_right den (not_le.1 hgrid)
    have hnum : whole * den * steps ≤ num * steps := Nat.mul_le_mul_right steps hexact
    nlinarith

/-- A whole number that is not below a quotient is not below the nearest point of a grid, and if the
grid is fine, no other one is. -/
theorem le_mul_iff_of_near (hfine : den < 2 * steps)
    (hbelow : 2 * (num * steps) ≤ (2 * mantissa + 1) * den)
    (habove : 2 * (mantissa * den) ≤ 2 * (num * steps) + den) (hden : 0 < den) (whole : ℕ) :
    mantissa ≤ whole * steps ↔ num ≤ whole * den := by
  constructor
  · intro hgrid
    by_contra hexact
    have hreached : mantissa * den ≤ whole * steps * den := Nat.mul_le_mul_right den hgrid
    have hnum : (whole * den + 1) * steps ≤ num * steps :=
      Nat.mul_le_mul_right steps (not_le.1 hexact)
    nlinarith
  · intro hexact
    by_contra hgrid
    have hpassed : (whole * steps + 1) * den ≤ mantissa * den :=
      Nat.mul_le_mul_right den (not_le.1 hgrid)
    have hnum : num * steps ≤ whole * den * steps := Nat.mul_le_mul_right steps hexact
    nlinarith

end Grid

/-- A scaling by a power of one half multiplies the denominator. -/
theorem scale_neg (num den k : ℕ) : scale num den (-k) = (num, den * 2 ^ k) := by
  unfold scale
  cases k with
  | zero => simp
  | succ k =>
    rw [if_neg (by omega), neg_neg, Int.toNat_natCast]
    rfl

section Rounded

variable {k : ℕ}

/-- The mantissa of a rounded quotient, counted in steps of its grid, is near the exact one. -/
theorem mantissa_rounded_near (hden : 0 < den) (hexponent : (rounded num den).exponent = -k) :
    2 * (num * 2 ^ k) ≤ (2 * (rounded num den).mantissa + 1) * den ∧
      2 * ((rounded num den).mantissa * den) ≤ 2 * (num * 2 ^ k) + den := by
  have hscale : scale num den (-exponentFor num den) = (num * 2 ^ k, den) := by
    have hexponent : exponentFor num den = -k := hexponent
    rw [hexponent, neg_neg, scale, if_pos (Int.natCast_nonneg k), Int.toNat_natCast]
    rfl
  have hmantissa : (rounded num den).mantissa = roundQuotient (num * 2 ^ k) den := by
    rw [rounded, hscale]
  rw [hmantissa]
  exact roundQuotient_near (num * 2 ^ k) hden

theorem ratio_of_exponent {value : Double} (hexponent : value.exponent = -k) :
    value.ratio = (value.mantissa, 2 ^ k) := by
  rw [ratio, hexponent, scale_neg, one_mul]

/-- A quotient that is rounded to a fine grid keeps the whole number below it. -/
theorem floor_rounded (hden : 0 < den) (hexponent : (rounded num den).exponent = -k)
    (hfine : den < 2 * 2 ^ k) : (rounded num den).floor = num / den := by
  obtain ⟨hbelow, habove⟩ := mantissa_rounded_near hden hexponent
  have hfloor : (rounded num den).floor = (rounded num den).mantissa / 2 ^ k := by
    rw [floor, ratio_of_exponent hexponent]
  rw [hfloor]
  refine eq_of_forall_le_iff fun whole => ?_
  rw [Nat.le_div_iff_mul_le (by positivity), Nat.le_div_iff_mul_le hden]
  exact mul_le_iff_of_near hfine hbelow habove hden whole

/-- A quotient that is rounded to a fine grid keeps the whole number above it. -/
theorem ceil_rounded (hden : 0 < den) (hexponent : (rounded num den).exponent = -k)
    (hfine : den < 2 * 2 ^ k) : (rounded num den).ceil = num ⌈/⌉ den := by
  obtain ⟨hbelow, habove⟩ := mantissa_rounded_near hden hexponent
  have hceil : (rounded num den).ceil = (rounded num den).mantissa ⌈/⌉ 2 ^ k := by
    rw [ceil, ratio_of_exponent hexponent]
    rfl
  have hsteps : 0 < 2 ^ k := by positivity
  rw [hceil]
  refine eq_of_forall_ge_iff fun whole => ?_
  rw [ceilDiv_le_iff_le_mul hsteps, ceilDiv_le_iff_le_mul hden, mul_comm, mul_comm den]
  exact le_mul_iff_of_near hfine hbelow habove hden whole

end Rounded

/-! ### Thousandths -/

theorem thousandths_lt (hnum : num ≤ 2 ^ 53) : (num : ℚ) / (1000 : ℕ) < 2 ^ (44 : ℤ) := by
  have hnum : (num : ℚ) ≤ 2 ^ 53 := by exact_mod_cast hnum
  rw [div_lt_iff₀ (by norm_num)]
  exact hnum.trans_lt (by norm_num)

/-- Up to `2 ^ 53` thousandths there are `2 ^ 9` steps to the whole at least. -/
theorem exists_exponent_rounded (hpos : 0 < num) (hnum : num ≤ 2 ^ 53) :
    ∃ k : ℕ, (rounded num 1000).exponent = -k ∧ 9 ≤ k := by
  obtain ⟨hlow, -⟩ := binaryOrder_spec hpos (show 0 < 1000 by norm_num)
  have horder : binaryOrder num 1000 < 44 :=
    (zpow_lt_zpow_iff_right₀ (one_lt_two (α := ℚ))).1 (hlow.trans_lt (thousandths_lt hnum))
  have hexponent := exponent_rounded num 1000
  exact ⟨(-(rounded num 1000).exponent).toNat, by omega, by omega⟩

/-- Up to `2 ^ 53` thousandths have a double, with the same whole numbers next to it. -/
theorem ofRatio_thousandths (hnum : num ≤ 2 ^ 53) :
    ∃ value, ofRatio num 1000 = some value ∧
      value.floor = num / 1000 ∧ value.ceil = num ⌈/⌉ 1000 := by
  rcases Nat.eq_zero_or_pos num with rfl | hpos
  · exact ⟨⟨0, leastExponent⟩, rfl, by decide +kernel, by decide +kernel⟩
  have hsome : (ofRatio num 1000).isSome :=
    isSome_ofRatio_of_lt (by norm_num)
      ((thousandths_lt hnum).trans_le (zpow_le_zpow_right₀ one_le_two (by norm_num)))
  have hvalue : ofRatio num 1000 = some (rounded num 1000) := by
    rw [ofRatio_eq hpos] at hsome ⊢
    split_ifs at hsome ⊢
    · rfl
    · cases hsome
  obtain ⟨k, hexponent, hk⟩ := exists_exponent_rounded hpos hnum
  have hsteps : 2 ^ 9 ≤ 2 ^ k := Nat.pow_le_pow_right (by norm_num) hk
  have hfine : 1000 < 2 * 2 ^ k := by omega
  exact ⟨rounded num 1000, hvalue, floor_rounded (by norm_num) hexponent hfine,
    ceil_rounded (by norm_num) hexponent hfine⟩

end Double

namespace Sandbox.Limits

/-- A deadline of up to `2 ^ 53` milliseconds is told in whole seconds as if it were divided
exactly. -/
theorem deadlineSeconds?_eq {ms : ℤ} (h : |ms| ≤ 2 ^ 53) :
    deadlineSeconds? ms = some ⌈(ms : ℚ) / 1000⌉ := by
  have hceil : ⌈(ms : ℚ) / 1000⌉ = -(-ms / 1000) := Rat.ceil_intCast_div_natCast ms 1000
  rw [Int.abs_eq_natAbs] at h
  rw [hceil]
  unfold deadlineSeconds?
  cases ms with
  | ofNat n =>
    have hn : n ≤ 2 ^ 53 := by exact_mod_cast h
    obtain ⟨value, hvalue, -, hup⟩ := Double.ofRatio_thousandths hn
    dsimp only
    rw [hvalue, Option.map_some, hup, Nat.ceilDiv_eq_add_pred_div, Option.some.injEq,
      Int.ofNat_eq_natCast]
    omega
  | negSucc n =>
    have hn : n + 1 ≤ 2 ^ 53 := by exact_mod_cast h
    obtain ⟨value, hvalue, hdown, -⟩ := Double.ofRatio_thousandths hn
    dsimp only
    rw [hvalue, Option.map_some, hdown, Option.some.injEq]
    omega

/-- **The processor time of a child.** Up to `2 ^ 53` milliseconds in either direction the child is
told the deadline divided by a thousand and rounded up, as if that were done exactly, and one second
more. So its processor time is a second longer than the deadline at least, and not shorter for a later
deadline. -/
theorem cpuSeconds_eq_ceil {limits : Limits} (h : |limits.timeoutMs| ≤ 2 ^ 53) :
    ∃ told, limits.forChild? = some told ∧
      told.cpuSeconds = ⌈(limits.timeoutMs : ℚ) / 1000⌉ + 1 ∧
      limits.timeoutMs + 1000 ≤ 1000 * told.cpuSeconds ∧
      ∀ later : Limits, |later.timeoutMs| ≤ 2 ^ 53 → limits.timeoutMs ≤ later.timeoutMs →
        ∃ laterTold, later.forChild? = some laterTold ∧ told.cpuSeconds ≤ laterTold.cpuSeconds := by
  have htold : ∀ other : Limits, |other.timeoutMs| ≤ 2 ^ 53 → other.forChild? =
      some ⟨⌈(other.timeoutMs : ℚ) / 1000⌉ + 1, other.memoryMb * 1024 * 1024,
        other.maxOutputChars⟩ := fun other hother => by
    rw [forChild?, deadlineSeconds?_eq hother, Option.map_some]
  refine ⟨_, htold limits h, rfl, ?_, fun later hlater hle => ⟨_, htold later hlater, ?_⟩⟩
  · have hup : (limits.timeoutMs : ℚ) / 1000 ≤ ⌈(limits.timeoutMs : ℚ) / 1000⌉ := Int.le_ceil _
    rw [div_le_iff₀ (by norm_num)] at hup
    have hwhole : limits.timeoutMs ≤ ⌈(limits.timeoutMs : ℚ) / 1000⌉ * 1000 := by
      exact_mod_cast hup
    dsimp only
    omega
  · have hmono : ⌈(limits.timeoutMs : ℚ) / 1000⌉ ≤ ⌈(later.timeoutMs : ℚ) / 1000⌉ := by
      gcongr
    dsimp only
    omega

/-- The last whole number of seconds up to `2 ^ 53` milliseconds, and one millisecond more: the
thousandth is not lost. -/
theorem cpuSeconds_of_one_more_millisecond :
    let limits : Limits := { timeoutMs := 9007199254740001 }
    |limits.timeoutMs| ≤ 2 ^ 53 ∧
      ∃ told, limits.forChild? = some told ∧ told.cpuSeconds = 9007199254742 := by
  intro limits
  have hsmall : |limits.timeoutMs| ≤ 2 ^ 53 := by decide
  obtain ⟨told, htold, hseconds, -⟩ := cpuSeconds_eq_ceil hsmall
  refine ⟨hsmall, told, htold, hseconds.trans ?_⟩
  norm_num [limits]

end Sandbox.Limits
end Shellbox
