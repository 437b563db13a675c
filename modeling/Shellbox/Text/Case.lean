import Shellbox.Text.CaseTable
/-!
# Lower case

Two maps to lower case. `lowerCode` takes one code point to one code point and serves patterns
that ignore case. `lower` takes a whole text: `İ` becomes two characters, and the capital sigma
becomes `ς` where it ends a word and `σ` elsewhere.

A sigma ends a word when a cased character stands before it and none after it, where characters
that case ignores are passed over on both sides.
-/

namespace Shellbox.Text

/-- The lower-case form of one code point. -/
def lowerCode (n : Nat) : Nat :=
  if n < 128 then (if 65 ≤ n && n ≤ 90 then n + 32 else n) else mapCase lowerRuns n

/-- The upper-case form of one code point. -/
def upperCode (n : Nat) : Nat :=
  if n < 128 then (if 97 ≤ n && n ≤ 122 then n - 32 else n) else mapCase upperRuns n

/-- Whether a code point differs from its lower-case or from its upper-case form. -/
def hasCase (n : Nat) : Bool := lowerCode n != n || upperCode n != n

/-- Whether some code point from `lo` to `hi` has case. -/
def someHasCase (lo hi : Nat) : Bool :=
  lowerRuns.any (·.meets lo hi) || upperRuns.any (·.meets lo hi)

/-- The code points with the lower-case form `n`. -/
def loweringTo (n : Nat) : List Nat :=
  if lowerCode n == n then n :: casePreimages lowerRuns n else casePreimages lowerRuns n

/-- The other lower-case code points with the same upper-case form as the lower-case code point
`n`. -/
def caseSiblings (n : Nat) : List Nat := (caseSiblingTable.lookup n).getD []

/-- Whether a character takes part in letter case. -/
def isCased (c : Char) : Bool := casedRanges.has c.toNat

/-- Whether a character is passed over when letter case looks at its neighbours. -/
def isCaseIgnored (c : Char) : Bool := caseIgnoredRanges.has c.toNat

/-- Whether the first character that counts is cased. -/
def startsCased (text : List Char) : Bool :=
  match text.dropWhile isCaseIgnored with
  | [] => false
  | c :: _ => isCased c

/-- The lower-case form of a text that follows on characters of which the last that counts is
cased or not. -/
def lowerAfter (afterCased : Bool) : List Char → List Char
  | [] => []
  | c :: rest =>
    let next := if isCaseIgnored c then afterCased else isCased c
    if c.toNat < 128 then Char.ofNat (lowerCode c.toNat) :: lowerAfter next rest
    else if c = 'İ' then 'i' :: '\u0307' :: lowerAfter next rest
    else if c = 'Σ' then
      (if afterCased && !startsCased rest then 'ς' else 'σ') :: lowerAfter next rest
    else Char.ofNat (lowerCode c.toNat) :: lowerAfter next rest

/-- The lower-case form of a text. -/
def lower (text : List Char) : List Char := lowerAfter false text

/-- The lower-case form of a string. -/
def lowerString (s : String) : String := String.ofList (lower s.toList)

example : lowerString "ODYSSEUS ΟΔΥΣΣΕΥΣ" = "odysseus οδυσσευς" := by decide +kernel

end Shellbox.Text
