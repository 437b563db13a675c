import Shellbox.Json.Value
import Shellbox.Text.Numeral
/-!
# Reading JSON

Besides the values of the standard, the names `NaN`, `Infinity` and `-Infinity` are read. Of
several members with one key an object has the last value in the place of the first. Control
characters in texts are refused, and so is anything but blanks around the value. A whole number
with more than 4300 digits is a cause of its own.

Each reader takes the characters still to come and gives a value with the rest. The readers of
nested values are given fuel, of which the length of the text is enough, and the room that is left
for nesting: an array or an object takes one level of it, and where there is none its opening
bracket is as far as a text is read.
-/

namespace Shellbox.Json

/-- The causes for which a text is not read. -/
inductive ReadError where
  /-- The text is not of the form. -/
  | malformed
  /-- A whole number has too many digits. -/
  | tooManyDigits (count : Nat)
  /-- There is no room for an array or an object at this depth. -/
  | tooDeep (kind : String)
  deriving DecidableEq, Repr

/-- Whether a character may stand around values. -/
def isSpace (c : Char) : Bool := c = ' ' || c = '\t' || c = '\n' || c = '\r'

/-- The text without the blanks at its start. -/
def skipSpace (input : List Char) : List Char := input.dropWhile isSpace

/-- The value of a hexadecimal digit. -/
def hexValue? (c : Char) : Option Nat :=
  if '0' ≤ c && c ≤ '9' then some (c.toNat - 48)
  else if 'a' ≤ c && c ≤ 'f' then some (c.toNat - 87)
  else if 'A' ≤ c && c ≤ 'F' then some (c.toNat - 55)
  else none

/-- The number of four hexadecimal digits. -/
def unit? (a b c d : Char) : Option Nat := do
  return ((← hexValue? a) * 16 + (← hexValue? b)) * 256 + (← hexValue? c) * 16 + (← hexValue? d)

/-- What a letter means behind a backslash. -/
def shortEscape? : Char → Option Nat
  | '"' => some 34
  | '\\' => some 92
  | '/' => some 47
  | 'b' => some 8
  | 'f' => some 12
  | 'n' => some 10
  | 'r' => some 13
  | 't' => some 9
  | _ => none

/-- The code point of which two numbers are the halves of the surrogate pair, if they are. -/
def pairUp (high low : Nat) : Option Nat :=
  if 0xD800 ≤ high && high ≤ 0xDBFF && 0xDC00 ≤ low && low ≤ 0xDFFF then
    some (0x10000 + (high - 0xD800) * 0x400 + (low - 0xDC00))
  else none

/-- The four-digit escape at the start of a text, with the rest. -/
def unitEscape? : List Char → Option (Nat × List Char)
  | '\\' :: 'u' :: a :: b :: c :: d :: rest => (unit? a b c d).map fun n => (n, rest)
  | _ => none

/-- Reads a text behind its opening quote, on top of the code points read, which are in
reverse. -/
def readText : Nat → Codes → List Char → Except ReadError (Codes × List Char)
  | 0, _, _ => .error .malformed
  | _, _, [] => .error .malformed
  | _, codes, '"' :: rest => .ok (codes.reverse, rest)
  | fuel + 1, codes, '\\' :: c :: rest =>
    if c = 'u' then
      match unitEscape? ('\\' :: c :: rest) with
      | none => .error .malformed
      | some (high, rest) =>
        match unitEscape? rest with
        | some (low, further) =>
          match pairUp high low with
          | some n => readText fuel (n :: codes) further
          | none => readText fuel (high :: codes) rest
        | none => readText fuel (high :: codes) rest
    else
      match shortEscape? c with
      | some n => readText fuel (n :: codes) rest
      | none => .error .malformed
  | fuel + 1, codes, c :: rest =>
    if c.toNat < 32 || c = '\\' then .error .malformed
    else readText fuel (c.toNat :: codes) rest

/-- The fraction at the start of a text: the digits behind a point, if there are any. -/
def readFraction (input : List Char) : Option (List Char) × List Char :=
  match input with
  | '.' :: rest =>
    match rest.takeWhile Char.isDigit with
    | [] => (none, input)
    | digits => (some digits, rest.dropWhile Char.isDigit)
  | _ => (none, input)

/-- The exponent at the start of a text, with its sign. -/
def readExponent (input : List Char) : Option Int × List Char :=
  match input with
  | e :: rest =>
    if e = 'e' || e = 'E' then
      let (negative, digits) :=
        match rest with
        | '-' :: more => (true, more)
        | '+' :: more => (false, more)
        | more => (false, more)
      match digits.takeWhile Char.isDigit with
      | [] => (none, input)
      | shown =>
        let n : Int := Text.digitsValue shown
        (some (if negative then -n else n), digits.dropWhile Char.isDigit)
    else (none, input)
  | [] => (none, input)

/-- The number `digits * 10 ^ power` with its sign, rounded to a double. Powers far outside the
range of doubles are not computed. -/
def realOf (negative : Bool) (digits : List Char) (power : Int) : Real :=
  let digits := digits.dropWhile (· = '0')
  let order : Int := digits.length + power
  if digits.isEmpty || order < -400 then .finite negative ⟨0, Double.leastExponent⟩
  else if order > 400 then .infinite negative
  else
    match Decimal.readBack (Text.digitsValue digits) power with
    | some size => .finite negative size
    | none => .infinite negative

/-- The whole part of a number at the start of a text. A zero in front is all of it. -/
def readWhole (input : List Char) : List Char × List Char :=
  match input with
  | '0' :: rest => (['0'], rest)
  | _ => (input.takeWhile Char.isDigit, input.dropWhile Char.isDigit)

/-- Reads a number behind its sign. -/
def readNumber (negative : Bool) (input : List Char) : Except ReadError (Json × List Char) :=
  let (whole, rest) := readWhole input
  if whole.isEmpty then .error .malformed
  else
    let (fraction, rest) := readFraction rest
    let (exponent, rest) := readExponent rest
    match fraction, exponent with
    | none, none =>
      if whole.length > Text.maxDigits then .error (.tooManyDigits whole.length)
      else
        let n : Int := Text.digitsValue whole
        .ok (.int (if negative then -n else n), rest)
    | _, _ =>
      let places := fraction.getD []
      .ok (.real (realOf negative (whole ++ places) (exponent.getD 0 - places.length)), rest)

/-- The rest behind a word at the start of a text. -/
def behind? (word : String) (input : List Char) : Option (List Char) :=
  if word.toList.isPrefixOf input then some (input.drop word.length) else none

/-- Reads a value that is no text, array or object. -/
def readAtom (input : List Char) : Except ReadError (Json × List Char) :=
  match input with
  | '-' :: rest =>
    match behind? "Infinity" rest with
    | some rest => .ok (.real (.infinite true), rest)
    | none => readNumber true rest
  | _ =>
    let names : List (String × Json) :=
      [("null", .null), ("true", .bool true), ("false", .bool false), ("NaN", .real .nan),
       ("Infinity", .real (.infinite false))]
    match names.findSome? fun (word, value) => (behind? word input).map (value, ·) with
    | some found => .ok found
    | none => readNumber false input

mutual

/-- Reads a value at the start of a text. -/
def readValue : Nat → Nat → List Char → Except ReadError (Json × List Char)
  | 0, _, _ => .error .malformed
  | fuel + 1, _, '"' :: rest => do
    let (codes, rest) ← readText fuel [] rest
    return (.text codes, rest)
  | _ + 1, 0, '[' :: _ => .error (.tooDeep "array")
  | fuel + 1, room + 1, '[' :: rest =>
    match skipSpace rest with
    | ']' :: rest => .ok (.array [], rest)
    | rest => readItems fuel room [] rest
  | _ + 1, 0, '\x7b' :: _ => .error (.tooDeep "object")
  | fuel + 1, room + 1, '\x7b' :: rest =>
    match skipSpace rest with
    | '\x7d' :: rest => .ok (.object [], rest)
    | rest => readMembers fuel room [] rest
  | _, _, input => readAtom input

/-- Reads the items of an array from one on, on top of those before, which are in reverse. -/
def readItems : Nat → Nat → List Json → List Char → Except ReadError (Json × List Char)
  | 0, _, _, _ => .error .malformed
  | fuel + 1, room, items, input => do
    let (item, rest) ← readValue fuel room input
    match skipSpace rest with
    | ',' :: rest => readItems fuel room (item :: items) (skipSpace rest)
    | ']' :: rest => return (.array (item :: items).reverse, rest)
    | _ => throw .malformed

/-- Reads the members of an object from one on, on top of those before. -/
def readMembers : Nat → Nat → List (Codes × Json) → List Char →
    Except ReadError (Json × List Char)
  | 0, _, _, _ => .error .malformed
  | fuel + 1, room, members, input =>
    match input with
    | '"' :: rest => do
      let (key, rest) ← readText fuel [] rest
      match skipSpace rest with
      | ':' :: rest =>
        let (value, rest) ← readValue fuel room (skipSpace rest)
        let members := Keyed.put key value members
        match skipSpace rest with
        | ',' :: rest => readMembers fuel room members (skipSpace rest)
        | '\x7d' :: rest => return (.object members, rest)
        | _ => throw .malformed
      | _ => throw .malformed
    | _ => .error .malformed

end

/-- Reads a text that is one value with blanks around it, in which arrays and objects are nested to
the depth `room` at most. -/
def read (room : Nat) (input : List Char) : Except ReadError Json := do
  let (value, rest) ← readValue (2 * input.length + 2) room (skipSpace input)
  if (skipSpace rest).isEmpty then return value else throw .malformed

end Shellbox.Json
