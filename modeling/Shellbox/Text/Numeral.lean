import Shellbox.Text.Blank
import Shellbox.Text.Letter
/-!
# Whole numbers in text

Reading a whole number: blanks around it, one sign, then decimal digits of any script, where
one underscore may stand between two digits. More than 4300 digits are refused. The separators
U+001C to U+001F are blanks elsewhere but not around a number.
-/

namespace Shellbox.Text

/-- The greatest number of digits that a number may have in text. -/
def maxDigits : Nat := 4300

/-- Reads digits with single underscores between them on top of the value and the count of the
digits before. -/
def digitsFrom (value count : Nat) : List Char → Option (Nat × Nat)
  | [] => some (value, count)
  | '_' :: d :: rest => do
    let v ← decimalValue? d.toNat
    digitsFrom (10 * value + v) (count + 1) rest
  | d :: rest => do
    let v ← decimalValue? d.toNat
    digitsFrom (10 * value + v) (count + 1) rest

/-- Reads an unsigned number: at least one digit, the first of them in front. -/
def unsigned? : List Char → Option Nat
  | [] => none
  | d :: rest => do
    let v ← decimalValue? d.toNat
    let (value, count) ← digitsFrom v 1 rest
    if count ≤ maxDigits then some value else none

/-- Whether a character may stand around a number. -/
def isNumberBlank (c : Char) : Bool := isBlank c && !(28 ≤ c.toNat && c.toNat ≤ 31)

/-- Reads a whole number. -/
def integer? (text : List Char) : Option Int :=
  match dropEnd isNumberBlank (text.dropWhile isNumberBlank) with
  | '+' :: rest => (unsigned? rest).map Int.ofNat
  | '-' :: rest => (unsigned? rest).map (fun n => -Int.ofNat n)
  | rest => (unsigned? rest).map Int.ofNat

/-- The value of a list of ASCII digits. -/
def digitsValue (digits : List Char) : Nat :=
  digits.foldl (fun value d => 10 * value + (d.toNat - 48)) 0

example : integer? " -1_000 ".toList = some (-1000) := by decide +kernel
example : integer? "1__0".toList = none := by decide +kernel
example : integer? ['\x1c', '1'] = none := by decide +kernel

end Shellbox.Text
