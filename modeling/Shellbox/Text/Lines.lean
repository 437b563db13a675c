/-!
# Lines

Cutting a text into lines for searching. Besides the line feed, a line ends at a carriage
return (with a following line feed if there is one), at a vertical tab, a form feed, U+001C to
U+001E, U+0085, U+2028 and U+2029. The end of a line is not part of it, and a text that ends
with a line end has no further, empty line.
-/

namespace Shellbox.Text

/-- Whether a character ends a line. -/
def endsLine (c : Char) : Bool :=
  let n := c.toNat
  (10 ≤ n && n ≤ 13) || (28 ≤ n && n ≤ 30) || n == 0x85 || n == 0x2028 || n == 0x2029

/-- The lines of a text, with the characters of the line being read kept in reverse. -/
def linesFrom (line : List Char) : List Char → List (List Char)
  | [] => if line.isEmpty then [] else [line.reverse]
  | '\r' :: '\n' :: rest => line.reverse :: linesFrom [] rest
  | c :: rest =>
    if endsLine c then line.reverse :: linesFrom [] rest else linesFrom (c :: line) rest

/-- The lines of a text, without the characters that end them. -/
def lines (text : List Char) : List (List Char) := linesFrom [] text

end Shellbox.Text
