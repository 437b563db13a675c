import Shellbox.Decimal.Double
import Shellbox.Json.Writer
/-!
# Limits of a snippet run

A snippet runs with a deadline, a bound on memory and a bound on the characters it may print. The
child is told the first as whole seconds of processor time: the deadline in seconds, rounded to a
double and then up, and one more. The parent reads at most six bytes per character and some for
the frame of the reply.
-/

namespace Shellbox.Sandbox

/-- The limits of a run. -/
structure Limits where
  timeoutMs : Int := 3000
  memoryMb : Int := 256
  maxOutputChars : Int := 65536
  deriving DecidableEq, Repr

/-- The limits as the child is told them. -/
structure ChildLimits where
  cpuSeconds : Int
  memoryBytes : Int
  maxOutputChars : Int
  deriving DecidableEq, Repr

namespace Limits

/-- The deadline in seconds as a double, rounded up to a whole number. It is missing if it is too
large for a double. -/
def deadlineSeconds? (timeoutMs : Int) : Option Int :=
  match timeoutMs with
  | .ofNat ms => (Double.ofRatio ms 1000).map fun seconds => (seconds.ceil : Int)
  | .negSucc ms => (Double.ofRatio (ms + 1) 1000).map fun seconds => -(seconds.floor : Int)

/-- What the child is told, if the deadline fits into a double. -/
def forChild? (limits : Limits) : Option ChildLimits :=
  (deadlineSeconds? limits.timeoutMs).map fun seconds =>
    ⟨seconds + 1, limits.memoryMb * 1024 * 1024, limits.maxOutputChars⟩

/-- The number of bytes of a reply that do not depend on the output. -/
def replyFrame : Int := 4096

/-- The greatest number of bytes of a reply that is read. -/
def replyBytes (limits : Limits) : Int := limits.maxOutputChars * 6 + replyFrame

end Limits

/-- The limits as JSON. -/
def ChildLimits.toJson (limits : ChildLimits) : Json :=
  Json.ofMembers
    [("cpu_seconds", .int limits.cpuSeconds), ("memory_bytes", .int limits.memoryBytes),
     ("max_output_chars", .int limits.maxOutputChars)]

/-- The request that the child reads: the snippet and its limits. -/
def request (source : String) (limits : ChildLimits) : String :=
  (Json.ofMembers [("source", .ofString source), ("limits", limits.toJson)]).toAscii

end Shellbox.Sandbox
