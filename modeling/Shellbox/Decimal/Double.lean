/-!
# Doubles

The finite non-negative numbers of the IEEE 754 format with 53 bits, each as `mantissa` times a
power of two. `Double.ofRatio` rounds a quotient to the nearest of them, a tie to the even
mantissa; quotients that would round to `2 ^ 1024` or more have no finite double.

Everything is computed in whole numbers, so that each result can be checked against the exact
quotient.
-/

namespace Shellbox

/-- The finite double `mantissa * 2 ^ exponent`. -/
structure Double where
  mantissa : Nat
  exponent : Int
  deriving DecidableEq, Repr

namespace Double

/-- The quotient of two numbers rounded to the nearest whole number, a tie to the even one. -/
def roundQuotient (num den : Nat) : Nat :=
  let floor := num / den
  let rest := 2 * (num % den)
  if rest < den then floor
  else if den < rest then floor + 1
  else if floor % 2 = 0 then floor else floor + 1

/-- Numerator and denominator of a quotient times a power of two. -/
def scale (num den : Nat) (power : Int) : Nat × Nat :=
  if 0 ≤ power then (num * Nat.pow 2 power.toNat, den) else (num, den * Nat.pow 2 (-power).toNat)

/-- The exponent of the greatest power of two that is not above a positive quotient. -/
def binaryOrder (num den : Nat) : Int :=
  let guess : Int := num.log2 - den.log2
  let (n, d) := scale num den (-guess)
  if n < d then guess - 1 else guess

/-- The least exponent of a double. -/
def leastExponent : Int := -1074

/-- The number of bits of a mantissa. -/
def precision : Nat := 53

/-- The exponent of the doubles near a positive quotient. -/
def exponentFor (num den : Nat) : Int :=
  max (binaryOrder num den - (precision - 1 : Nat)) leastExponent

/-- Whether a number has the size of a finite double: it is below `2 ^ 1024`. -/
def isFinite (value : Double) : Bool :=
  value.mantissa = 0 || value.exponent + value.mantissa.log2 < 1024

/-- The double nearest to a quotient, if it is finite. -/
def ofRatio (num den : Nat) : Option Double :=
  if num = 0 then some ⟨0, leastExponent⟩
  else
    let exponent := exponentFor num den
    let (n, d) := scale num den (-exponent)
    let value : Double := ⟨roundQuotient n d, exponent⟩
    if value.isFinite then some value else none

/-- The numerator and the denominator of a double. -/
def ratio (value : Double) : Nat × Nat := scale value.mantissa 1 value.exponent

/-- The least whole number that is not below a double. -/
def ceil (value : Double) : Nat :=
  let (n, d) := value.ratio
  (n + d - 1) / d

/-- The greatest whole number that is not above a double. -/
def floor (value : Double) : Nat :=
  let (n, d) := value.ratio
  n / d

/-- Whether two doubles have the same value. -/
def same (a b : Double) : Bool :=
  let (n, d) := a.ratio
  let (m, e) := b.ratio
  n * e = m * d

example : ofRatio 1 10 = some ⟨7205759403792794, -56⟩ := by decide +kernel

end Double

end Shellbox
