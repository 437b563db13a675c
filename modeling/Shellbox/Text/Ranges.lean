/-!
# Sets of code points as ranges

A set of code points is written as the increasing list of its ranges, first and last member
included. `Ranges.has` stops at the first range that begins above the code point.
-/

namespace Shellbox.Text

/-- A set of code points: its ranges in increasing order, both ends included. -/
abbrev Ranges := List (Nat × Nat)

/-- Whether a code point lies in one of the ranges. -/
def Ranges.has : Ranges → Nat → Bool
  | [], _ => false
  | (first, last) :: rest, n => if n < first then false else n ≤ last || Ranges.has rest n

/-- Where a code point stands in its range, counted from zero. -/
def Ranges.offset? : Ranges → Nat → Option Nat
  | [], _ => none
  | (first, last) :: rest, n =>
    if n < first then none else if n ≤ last then some (n - first) else Ranges.offset? rest n

end Shellbox.Text
