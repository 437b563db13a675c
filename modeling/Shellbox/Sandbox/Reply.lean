import Shellbox.Json.Reader
import Shellbox.Sandbox.Limits
/-!
# The reply of the child

The child answers with one JSON object: the lines that the snippet printed under `output`, whether
there was more under `truncated`, and a text under `error` if the snippet could not be run at all.
Bytes that are no UTF-8 or no JSON count as an error of the run. A value of another shape is a
`Fault`, for which there is no result, and so is a value that is nested too deeply to be read. Such
a reply has an object around an array, so these two levels are always taken to be there; how many
more there are depends on how deep the calls of the program are already.
-/

namespace Shellbox.Sandbox

/-- What came of a run: the output, or an error without output. -/
structure Result where
  output : Codes
  error : Option Codes
  deriving DecidableEq, Repr

namespace Result

/-- Whether there is no error. -/
def ok (result : Result) : Bool := result.error.isNone

/-- The result with an error in these words. -/
def failed (words : String) : Result := ⟨[], some (Codes.ofString words)⟩

end Result

/-- The causes for which a run has no result. -/
inductive Fault where
  /-- The deadline is too large for a double. -/
  | deadlineTooLarge
  /-- The reply is no object. -/
  | notAnObject (kind : String)
  /-- The output cannot be taken apart. -/
  | notIterable (kind : String)
  /-- A line of the output is no text. -/
  | notAText (index : Nat) (kind : String)
  /-- A whole number in the reply has too many digits. -/
  | tooManyDigits (count : Nat)
  /-- An array or an object in the reply is nested too deeply. -/
  | tooDeep (kind : String)
  deriving DecidableEq, Repr

/-- The wording of a cause. -/
def Fault.message : Fault → String
  | deadlineTooLarge => "integer division result too large for a float"
  | notAnObject kind => "'" ++ kind ++ "' object has no attribute 'get'"
  | notIterable kind => "'" ++ kind ++ "' object is not iterable"
  | notAText index kind =>
    "sequence item " ++ toString index ++ ": expected str instance, " ++ kind ++ " found"
  | tooManyDigits count =>
    "Exceeds the limit (4300 digits) for integer string conversion: value has " ++
      toString count ++ " digits; use sys.set_int_max_str_digits() to increase the limit"
  | tooDeep kind =>
    "maximum recursion depth exceeded while decoding a JSON " ++ kind ++ " from a unicode string"

/-- What stands behind the output when there was more. -/
def truncationMark : String := "... output truncated"

/-- The member of an object under a key. -/
def member? (key : String) (members : List (Codes × Json)) : Option Json :=
  members.lookup (Codes.ofString key)

/-- The parts of an output: the items of an array, the characters of a text, the keys of an
object. -/
def outputParts : Json → Except Fault (List Json)
  | .array items => .ok items
  | .text codes => .ok (codes.map fun n => .text [n])
  | .object members => .ok (members.map fun (key, _) => .text key)
  | value => .error (.notIterable value.kindName)

/-- The texts of a list of values, of which the first has the given index. -/
def outputLines (index : Nat) : List Json → Except Fault (List Codes)
  | [] => .ok []
  | .text codes :: rest => do return codes :: (← outputLines (index + 1) rest)
  | value :: _ => .error (.notAText index value.kindName)

/-- The result that the members of a reply stand for. -/
def resultOf (members : List (Codes × Json)) : Except Fault Result := do
  match (member? "error" members).filter Json.isTrue with
  | some error => return ⟨[], some (Codes.ofString "Execution error: " ++ error.display)⟩
  | none =>
    let parts ← outputParts ((member? "output" members).getD (.array []))
    let mark := ((member? "truncated" members).filter Json.isTrue).map fun _ =>
      Json.ofString truncationMark
    let lines ← outputLines 0 (parts ++ mark.toList)
    return ⟨Codes.joinWith "\n" lines, none⟩

/-- The result when a reply is no UTF-8 or no JSON. -/
def malformed : Result := .failed "Execution error: malformed sandbox reply"

/-- The words for a child that ended with a return code other than zero. A negative one tells the
signal that ended it. -/
def endingWords (returnCode : Int) : String :=
  "Execution error: sandbox " ++
    (if returnCode < 0 then "terminated by signal " ++ toString (-returnCode)
     else "exited with status " ++ toString returnCode)

/-- How many levels of nesting there usually are beyond the two of a reply: calls may be nested to a
depth of one thousand, and those of the program itself are among them. -/
def usualSpare : Nat := 980

/-- The result that the return code and the bytes of a child stand for, where a reply may be nested
`spare` levels deeper than an array in an object. -/
def readReply (returnCode : Int) (bytes : ByteArray) (spare : Nat := usualSpare) :
    Except Fault Result :=
  if returnCode ≠ 0 then .ok (.failed (endingWords returnCode))
  else
    match String.fromUTF8? bytes with
    | none => .ok malformed
    | some text =>
      match Json.read (spare + 2) text.toList with
      | .error .malformed => .ok malformed
      | .error (.tooManyDigits count) => .error (.tooManyDigits count)
      | .error (.tooDeep kind) => .error (.tooDeep kind)
      | .ok (.object members) => resultOf members
      | .ok value => .error (.notAnObject value.kindName)

end Shellbox.Sandbox
