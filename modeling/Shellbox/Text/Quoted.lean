import Shellbox.Text.Printable
/-!
# Quoted text

The form of a text inside a message: between single quotes, or between double quotes when it
holds a single quote and no double quote. A backslash and the enclosing quote get a backslash;
tab, line feed and carriage return get their letters; any other character that is not
printable is written by its number in two, four or eight hexadecimal digits.

Texts are code points here, since a text read from a reply may hold unpaired surrogates.
-/

namespace Shellbox.Text

/-- One hexadecimal digit in lower case. -/
def hexDigit (n : Nat) : Char := Char.ofNat (if n < 10 then 48 + n else 87 + n)

/-- The last `width` hexadecimal digits of a number. -/
def hexDigits : Nat → Nat → List Char
  | 0, _ => []
  | width + 1, n => hexDigits width (n / 16) ++ [hexDigit (n % 16)]

/-- A code point by its number in two, four or eight hexadecimal digits. -/
def numberedCode (n : Nat) : List Char :=
  if n < 0x100 then '\\' :: 'x' :: hexDigits 2 n
  else if n < 0x10000 then '\\' :: 'u' :: hexDigits 4 n
  else '\\' :: 'U' :: hexDigits 8 n

/-- The form of one code point between the quotes. -/
def quotedCode (quote n : Nat) : List Char :=
  if n == quote || n == 92 then ['\\', Char.ofNat n]
  else if n == 9 then ['\\', 't']
  else if n == 10 then ['\\', 'n']
  else if n == 13 then ['\\', 'r']
  else if isPrintable n then [Char.ofNat n]
  else numberedCode n

/-- The quoted form of a text given by its code points. -/
def quotedCodes (codes : List Nat) : List Char :=
  let quote := if codes.contains 39 && !codes.contains 34 then 34 else 39
  Char.ofNat quote :: codes.flatMap (quotedCode quote) ++ [Char.ofNat quote]

/-- The quoted form of a string. -/
def quoted (s : String) : String := String.ofList (quotedCodes (s.toList.map Char.toNat))

example : quoted "it's" = "\"it's\"" := by decide +kernel
example : quoted "a\n'\"\x00é" = "'a\\n\\'\"\\x00é'" := by decide +kernel

end Shellbox.Text
