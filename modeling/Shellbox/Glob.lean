/-!
# Name patterns

Patterns for whole names: `*` stands for any characters, `?` for one, and a bracket for one
character of a set, or with `!` in front for one outside it. A bracket that is not closed stands
for itself.

Inside a bracket a hyphen joins its neighbours to a range if there is a character on both sides
that is not part of a range already; other hyphens stand for themselves. A range whose ends are
the wrong way round is taken out together with its ends before the `!` is looked for. A bracket
that is empty after that admits nothing, and one with only the `!` admits any character.
-/

namespace Shellbox.Glob

/-- One part of the inside of a bracket. -/
inductive Part where
  /-- A character. -/
  | char (c : Char)
  /-- A hyphen between two characters that make a range. -/
  | to
  deriving DecidableEq, Repr

/-- What takes part in a name pattern. -/
inductive Piece where
  /-- Any number of characters. -/
  | many
  /-- One character. -/
  | any
  /-- A given character. -/
  | char (c : Char)
  /-- One character in some of the ranges, or in none of them. -/
  | oneOf (negated : Bool) (ranges : List (Char × Char))
  deriving DecidableEq, Repr

/-- Cuts the inside of a bracket at the hyphens that make ranges. Between two of them there are
at least two characters; `least` is the number of characters before the first. -/
def chunksFrom (least : Nat) (chunk : List Char) : List Char → List (List Char)
  | [] => [chunk]
  | c :: rest =>
    if c = '-' && chunk.length ≥ least then chunk :: chunksFrom 2 [] rest
    else chunksFrom least (chunk ++ [c]) rest

/-- The chunks of the inside of a bracket. A hyphen at the very end stands for itself. -/
def chunks (text : List Char) : List (List Char) :=
  let parts := chunksFrom (if text.head? = some '!' then 2 else 1) [] text
  match parts.reverse with
  | [] :: before :: others => ((before ++ ['-']) :: others).reverse
  | _ => parts

/-- Takes out the ranges whose ends are the wrong way round. -/
def dropReversed : List (List Char) → List (List Char)
  | [] => []
  | chunk :: rest =>
    match chunk.getLast?, dropReversed rest with
    | some last, (first :: others) :: more =>
      if last > first then (chunk.dropLast ++ others) :: more
      else chunk :: (first :: others) :: more
    | _, rest => chunk :: rest

/-- The parts of the inside of a bracket. -/
def parts (text : List Char) : List Part :=
  [.to].intercalate ((dropReversed (chunks text)).map (·.map Part.char))

/-- The ranges that the parts of a bracket make. -/
def ranges : List Part → List (Char × Char)
  | .char a :: .to :: .char b :: rest => (a, b) :: ranges rest
  | .char a :: rest => (a, a) :: ranges rest
  | .to :: rest => ('-', '-') :: ranges rest
  | [] => []

/-- The piece that a closed bracket stands for. -/
def bracket (text : List Char) : Piece :=
  match parts text with
  | [.char '!'] => .any
  | .char '!' :: rest => .oneOf true (ranges rest)
  | all => .oneOf false (ranges all)

/-- The inside of a bracket and what follows it, if it is closed. A closing bracket right behind
the opening one, or behind the `!` there, does not close it. -/
def inside? (text : List Char) : Option (List Char × List Char) :=
  let front := match text with
    | '!' :: ']' :: _ => 2
    | '!' :: _ => 1
    | ']' :: _ => 1
    | _ => 0
  let body := (text.drop front).takeWhile (· != ']')
  match (text.drop front).dropWhile (· != ']') with
  | [] => none
  | _ :: rest => some (text.take front ++ body, rest)

/-- Reads a name pattern with the fuel that its length gives. -/
def readFrom : Nat → List Char → List Piece
  | 0, _ => []
  | _, [] => []
  | fuel + 1, '*' :: rest => .many :: readFrom fuel rest
  | fuel + 1, '?' :: rest => .any :: readFrom fuel rest
  | fuel + 1, '[' :: rest =>
    match inside? rest with
    | none => .char '[' :: readFrom fuel rest
    | some (text, rest) => bracket text :: readFrom fuel rest
  | fuel + 1, c :: rest => .char c :: readFrom fuel rest

/-- Reads a name pattern. -/
def read (text : List Char) : List Piece := readFrom text.length text

/-- Whether a piece other than `many` stands for a character. -/
def Piece.accepts : Piece → Char → Bool
  | many, _ => false
  | any, _ => true
  | char d, c => c == d
  | oneOf negated ranges, c => negated != ranges.any (fun (a, b) => a ≤ c && c ≤ b)

/-- Whether a name pattern stands for a whole name. -/
def matchesAll : List Piece → List Char → Bool
  | [], text => text.isEmpty
  | .many :: pieces, [] => matchesAll pieces []
  | .many :: pieces, c :: rest => matchesAll pieces (c :: rest) || matchesAll (.many :: pieces) rest
  | _ :: _, [] => false
  | piece :: pieces, c :: rest => piece.accepts c && matchesAll pieces rest
termination_by pieces text => pieces.length + text.length

example : matchesAll (read "a*[!x-z]?".toList) "abcde".toList = true := by decide +kernel
example : matchesAll (read "[z-a]".toList) "z".toList = false := by decide +kernel

end Shellbox.Glob
