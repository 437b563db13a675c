import Shellbox.Json.Value
/-!
# Writing JSON

A comma and a colon are followed by one blank. In the ASCII form every character outside the
range from blank to tilde is escaped, above U+FFFF by the two halves of its surrogate pair; in
the plain form only quotes, backslashes and control characters are.
-/

namespace Shellbox.Json

/-- A four-digit escape. -/
def unitEscape (n : Nat) : List Char := '\\' :: 'u' :: Text.hexDigits 4 n

/-- The escape of a code point outside the plain range. -/
def codeEscape (n : Nat) : List Char :=
  if n < 0x10000 then unitEscape n
  else
    unitEscape (0xD800 + (n - 0x10000) / 0x400) ++ unitEscape (0xDC00 + (n - 0x10000) % 0x400)

/-- The form of one code point between the quotes. -/
def writeCode (ascii : Bool) (n : Nat) : List Char :=
  if n = 34 then ['\\', '"']
  else if n = 92 then ['\\', '\\']
  else if n = 10 then ['\\', 'n']
  else if n = 13 then ['\\', 'r']
  else if n = 9 then ['\\', 't']
  else if n = 12 then ['\\', 'f']
  else if n = 8 then ['\\', 'b']
  else if n < 32 || (ascii && 126 < n) then codeEscape n
  else [Char.ofNat n]

/-- A text with its quotes. -/
def writeText (ascii : Bool) (codes : Codes) : List Char :=
  '"' :: codes.flatMap (writeCode ascii) ++ ['"']

/-- A number with a fraction or an exponent. -/
def writeReal : Real → List Char
  | .nan => "NaN".toList
  | .infinite true => "-Infinity".toList
  | .infinite false => "Infinity".toList
  | value => value.display.toList

mutual

/-- A value as JSON text. -/
def write (ascii : Bool) : Json → List Char
  | null => "null".toList
  | bool true => "true".toList
  | bool false => "false".toList
  | int value => (toString value).toList
  | real value => writeReal value
  | text codes => writeText ascii codes
  | array items => '[' :: writeItems ascii items ++ [']']
  | object members => '\x7b' :: writeMembers ascii members ++ ['\x7d']

/-- The items of an array. -/
def writeItems (ascii : Bool) : List Json → List Char
  | [] => []
  | [item] => item.write ascii
  | item :: rest => item.write ascii ++ ',' :: ' ' :: writeItems ascii rest

/-- The members of an object. -/
def writeMembers (ascii : Bool) : List (Codes × Json) → List Char
  | [] => []
  | [(key, value)] => writeText ascii key ++ ':' :: ' ' :: value.write ascii
  | (key, value) :: rest =>
    writeText ascii key ++ ':' :: ' ' :: value.write ascii ++
      ',' :: ' ' :: writeMembers ascii rest

end

/-- A value as JSON text in ASCII characters. -/
def toAscii (value : Json) : String := String.ofList (value.write true)

/-- A value as JSON text in which printable characters stand for themselves. -/
def toPlain (value : Json) : String := String.ofList (value.write false)

end Shellbox.Json
