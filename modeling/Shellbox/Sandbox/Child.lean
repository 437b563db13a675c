import Shellbox.Sandbox.Reply
/-!
# Running a snippet in a child

What the parent sees of a child is written down in advance as a `Child`: whether it starts, the
chunks of bytes it writes, how it ends, and whether it takes the request. `execute` is what the
parent makes of it.

The parent reads chunks until the end or until there would be more bytes than the limit allows;
then it drops all of them and kills the child. A child that is not through in time is killed as
well, and that it was late counts more than what it wrote.
-/

namespace Shellbox.Sandbox

/-- All that the parent sees of a child. -/
structure Child where
  /-- The chunks of bytes in the order in which they are read. -/
  chunks : List ByteArray := []
  /-- The return code. -/
  returnCode : Int := 0
  /-- Whether it is still running at the deadline. -/
  hangs : Bool := false
  /-- Whether it ends before it has taken the request. -/
  brokenPipe : Bool := false
  /-- Why it does not start, if it does not. -/
  startError : Option String := none

/-- What came of a run: the result, the request as far as the child took it, and how often the
child was killed. -/
structure Run where
  result : Result
  request : String
  kills : Nat
  deriving DecidableEq, Repr

/-- Reads chunks behind the bytes held so far, up to the end or an empty chunk. There is nothing if
the limit is passed. -/
def collect (limit : Int) (held : ByteArray) : List ByteArray → Option ByteArray
  | [] => some held
  | chunk :: rest =>
    if chunk.isEmpty then some held
    else if (held.size + chunk.size : Nat) > limit then none
    else collect limit (held ++ chunk) rest

/-- The words for a child that is not through in time. -/
def lateWords (limits : Limits) : String :=
  "Timeout: execution exceeded " ++ toString limits.timeoutMs ++ " ms"

/-- The words for a reply of too many bytes. -/
def excessWords (limits : Limits) : String :=
  "Execution error: sandbox reply exceeded " ++ toString limits.replyBytes ++ " bytes"

namespace Child

/-- The bytes that are read from a child, unless there are too many. -/
def held (limits : Limits) (child : Child) : Option ByteArray :=
  collect limits.replyBytes .empty child.chunks

/-- How often a child is killed: for too many bytes, and for being late. -/
def kills (limits : Limits) (child : Child) : Nat :=
  (if (child.held limits).isNone then 1 else 0) + if child.hangs then 1 else 0

/-- The result for a child that has started. -/
def outcome (limits : Limits) (child : Child) (spare : Nat := usualSpare) :
    Except Fault Result :=
  if child.hangs then .ok (.failed (lateWords limits))
  else
    match child.held limits with
    | none => .ok (.failed (excessWords limits))
    | some bytes => readReply child.returnCode bytes spare

/-- What a child that has started takes of the request. -/
def taken (request : String) (child : Child) : String := if child.brokenPipe then "" else request

/-- What a child is sent, before anything is read from it and whatever comes of it. A child that is
not started is sent nothing. -/
def sent (source : String) (limits : Limits) (child : Child) : String :=
  match limits.forChild?, child.startError with
  | some told, none => child.taken (request source told)
  | _, _ => ""

end Child

/-- Runs a snippet in a child. -/
def execute (source : String) (limits : Limits) (child : Child) (spare : Nat := usualSpare) :
    Except Fault Run :=
  match limits.forChild? with
  | none => .error .deadlineTooLarge
  | some _ =>
    match child.startError with
    | some words => .ok ⟨.failed ("Execution error: " ++ words), "", 0⟩
    | none =>
      (child.outcome limits spare).map fun result =>
        ⟨result, child.sent source limits, child.kills limits⟩

end Shellbox.Sandbox
