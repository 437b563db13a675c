import Shellbox.Decimal.Double
/-!
# The shortest decimal text of a double

A double is written with the fewest significant digits that read back as the same double; of two
such texts, the one nearer to the double is taken.

Positional notation is used for numbers from `10 ^ -4` up to `10 ^ 16`, and a whole number gets
`.0` behind it. Other numbers are written with a power of ten of at least two digits.
-/

namespace Shellbox.Decimal

/-- Numerator and denominator of a number times a power of ten. -/
def scaleTen (num den : Nat) (power : Int) : Nat × Nat :=
  if 0 ≤ power then (num * Nat.pow 10 power.toNat, den)
  else (num, den * Nat.pow 10 (-power).toNat)

/-- The double that `digits * 10 ^ power` reads as, if it is finite. -/
def readBack (digits : Nat) (power : Int) : Option Double :=
  let (n, d) := scaleTen digits 1 power
  Double.ofRatio n d

/-- The exponent of the greatest power of ten that is not above a positive quotient, looked for
downwards from `order`. -/
def decimalOrder (num den : Nat) : Nat → Int → Int
  | 0, order => order
  | fuel + 1, order =>
    let (n, d) := scaleTen num den (-order)
    if n < d then decimalOrder num den fuel (order - 1) else order

/-- Whether `digits * 10 ^ power` reads as the double. -/
def readsBack (value : Double) (digits : Nat) (power : Int) : Bool :=
  match readBack digits power with
  | some other => value.same other
  | none => false

/-- The digits of so many places that read back as the double, if there are any: of the two
numbers next to it on the grid of these places, the nearer that does. -/
def digitsAt? (value : Double) (power : Int) : Option Nat :=
  let (num, den) := value.ratio
  let (n, d) := scaleTen num den (-power)
  let low := n / d
  let nearer := Double.roundQuotient n d
  let farther := if nearer = low then low + 1 else low
  if readsBack value nearer power then some nearer
  else if readsBack value farther power then some farther
  else none

/-- The shortest digits that read back as a positive double with leading power of ten `order`,
tried from a number of places on, with the power of ten of the last digit. -/
def shortestFrom (value : Double) (order : Int) : Nat → Nat → Nat × Int
  | 0, places => (0, order - places + 1)
  | fuel + 1, places =>
    let power := order - places + 1
    match digitsAt? value power with
    | some digits => (digits, power)
    | none => shortestFrom value order fuel (places + 1)

/-- The shortest digits that read back as a positive double, with the power of ten of the last
digit. -/
def shortest (value : Double) : Nat × Int :=
  let (num, den) := value.ratio
  shortestFrom value (decimalOrder num den 700 310) 20 1

/-- The text of a finite non-negative double. -/
def render (value : Double) : String :=
  if value.mantissa = 0 then "0.0"
  else
    let (number, power) := shortest value
    let digits := (toString number).toList
    let point : Int := digits.length + power
    let trimmed := ((digits.reverse.dropWhile (· = '0')).reverse)
    if -4 < point && point ≤ 16 then
      if point ≤ 0 then
        String.ofList ('0' :: '.' :: (List.replicate (-point).toNat '0' ++ trimmed))
      else
        let whole := point.toNat
        if trimmed.length ≤ whole then
          String.ofList (trimmed ++ List.replicate (whole - trimmed.length) '0' ++ ['.', '0'])
        else String.ofList (trimmed.take whole ++ '.' :: trimmed.drop whole)
    else
      let order := point - 1
      let size := toString order.natAbs
      let size := if size.length < 2 then "0" ++ size else size
      let front :=
        match trimmed with
        | [] => ['0']
        | [d] => [d]
        | d :: rest => d :: '.' :: rest
      String.ofList front ++ "e" ++ (if order < 0 then "-" else "+") ++ size

end Shellbox.Decimal
