import Shellbox.Decimal.Shortest
import Shellbox.Keyed
import Shellbox.Text.Quoted
/-!
# JSON values

A JSON value as it comes out of a text. A text in it is a list of code points, since an escape
may stand for one half of a surrogate pair without the other. An object has its members in the
order in which their keys first came up, each key once.

`Json.display` is the form of a value inside a message, and `Json.isTrue` says whether a value
counts as true.
-/

namespace Shellbox

/-- A text as its code points. Unpaired surrogates may be among them. -/
abbrev Codes := List Nat

/-- The code points of a string. -/
def Codes.ofString (s : String) : Codes := s.toList.map Char.toNat

/-- Texts one behind the other with a separator between neighbours. -/
def Codes.joinWith (separator : String) : List Codes → Codes
  | [] => []
  | [text] => text
  | text :: rest => text ++ Codes.ofString separator ++ joinWith separator rest

/-- A number with a fraction or an exponent, or one of the names for what is no finite number. -/
inductive Real where
  /-- A finite number with its sign. -/
  | finite (negative : Bool) (size : Double)
  /-- An infinite number with its sign. -/
  | infinite (negative : Bool)
  /-- No number at all. -/
  | nan
  deriving DecidableEq, Repr

/-- The text of such a number. -/
def Real.display : Real → String
  | finite negative size => (if negative then "-" else "") ++ Decimal.render size
  | infinite negative => if negative then "-inf" else "inf"
  | nan => "nan"

/-- A JSON value. -/
inductive Json where
  | null
  | bool (value : Bool)
  | int (value : Int)
  | real (value : Real)
  | text (codes : Codes)
  | array (items : List Json)
  | object (members : List (Codes × Json))
  deriving Repr

namespace Json

/-- A string as a value. -/
def ofString (s : String) : Json := text (Codes.ofString s)

/-- An object with strings as keys. -/
def ofMembers (members : List (String × Json)) : Json :=
  object (members.map fun (key, value) => (Codes.ofString key, value))

/-- The word for the kind of a value in a message. -/
def kindName : Json → String
  | null => "NoneType"
  | bool _ => "bool"
  | int _ => "int"
  | real _ => "float"
  | text _ => "str"
  | array _ => "list"
  | object _ => "dict"

/-- Whether a value counts as true: it is not null, false, zero or empty. -/
def isTrue : Json → Bool
  | null => false
  | bool value => value
  | int value => value != 0
  | real (.finite _ size) => size.mantissa != 0
  | real _ => true
  | text codes => !codes.isEmpty
  | array items => !items.isEmpty
  | object members => !members.isEmpty

mutual

/-- The form of a value inside another one in a message. -/
def inner : Json → Codes
  | null => Codes.ofString "None"
  | bool true => Codes.ofString "True"
  | bool false => Codes.ofString "False"
  | int value => Codes.ofString (toString value)
  | real value => Codes.ofString value.display
  | text codes => (Text.quotedCodes codes).map Char.toNat
  | array items => Codes.ofString "[" ++ innerItems items ++ Codes.ofString "]"
  | object members => Codes.ofString "\x7b" ++ innerMembers members ++ Codes.ofString "\x7d"

/-- The items of an array in a message. -/
def innerItems : List Json → Codes
  | [] => []
  | [item] => item.inner
  | item :: rest => item.inner ++ Codes.ofString ", " ++ innerItems rest

/-- The members of an object in a message. -/
def innerMembers : List (Codes × Json) → Codes
  | [] => []
  | [(key, value)] => (Text.quotedCodes key).map Char.toNat ++ Codes.ofString ": " ++ value.inner
  | (key, value) :: rest =>
    (Text.quotedCodes key).map Char.toNat ++ Codes.ofString ": " ++ value.inner ++
      Codes.ofString ", " ++ innerMembers rest

end

/-- The form of a value in a message: a text as it is, all else as inside another value. -/
def display : Json → Codes
  | text codes => codes
  | value => value.inner

end Json

end Shellbox
