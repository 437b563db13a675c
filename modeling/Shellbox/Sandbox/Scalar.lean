import Shellbox.Text.Quoted
/-!
# Simple values of a snippet

The values that a snippet may print or hand to an exception here: texts, whole numbers, truth
values and nothing.
-/

namespace Shellbox.Sandbox

/-- A simple value of a snippet. -/
inductive Scalar where
  | text (value : String)
  | int (value : Int)
  | bool (value : Bool)
  | none
  deriving DecidableEq, Repr

namespace Scalar

/-- The value as it is printed. -/
def display : Scalar → String
  | text value => value
  | int value => toString value
  | bool true => "True"
  | bool false => "False"
  | none => "None"

/-- The value as it is shown inside another one: a text is quoted. -/
def inner : Scalar → String
  | text value => Text.quoted value
  | value => value.display

end Scalar

end Shellbox.Sandbox
