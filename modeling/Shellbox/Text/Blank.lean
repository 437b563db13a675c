/-!
# Blank characters

The white space of this library: 29 characters, the ASCII separators U+001C to U+001F and
U+0085 among them. A command line is cut into words at blanks, so a word is never empty and
holds no blank.

| Function | What it gives |
|---|---|
| `isBlank` | membership in the class |
| `words` | the maximal runs without a blank |
| `strip` | the text without its leading and trailing blanks |
-/

namespace Shellbox.Text

/-- Whether a code point is white space. -/
def isBlankCode (n : Nat) : Bool :=
  (9 ≤ n && n ≤ 13) || (28 ≤ n && n ≤ 32) || n == 0x85 || n == 0xA0 || n == 0x1680 ||
    (0x2000 ≤ n && n ≤ 0x200A) || n == 0x2028 || n == 0x2029 || n == 0x202F || n == 0x205F ||
    n == 0x3000

/-- Whether a character is white space. -/
def isBlank (c : Char) : Bool := isBlankCode c.toNat

/-- The words of a text, with the letters of the word being read kept in reverse. -/
def wordsFrom (word : List Char) : List Char → List (List Char)
  | [] => if word.isEmpty then [] else [word.reverse]
  | c :: rest =>
    if isBlank c then
      if word.isEmpty then wordsFrom [] rest else word.reverse :: wordsFrom [] rest
    else wordsFrom (c :: word) rest

/-- The maximal runs of a text that hold no blank, in order. -/
def words (text : List Char) : List (List Char) := wordsFrom [] text

/-- The text without the characters of a class at its end. -/
def dropEnd (p : Char → Bool) (text : List Char) : List Char :=
  (text.reverse.dropWhile p).reverse

/-- The text without the blanks at its two ends. -/
def strip (text : List Char) : List Char := dropEnd isBlank (text.dropWhile isBlank)

/-- Every letter of a word being read, and every letter of the words still to come, is no blank. -/
theorem not_isBlank_of_mem_wordsFrom {text word w : List Char} {c : Char}
    (hword : ∀ x ∈ word, isBlank x = false) (hw : w ∈ wordsFrom word text) (hc : c ∈ w) :
    isBlank c = false := by
  induction text generalizing word with
  | nil =>
    simp only [wordsFrom] at hw
    split at hw
    · simp at hw
    · simp only [List.mem_singleton] at hw
      subst hw
      exact hword c (List.mem_reverse.1 hc)
  | cons x rest ih =>
    simp only [wordsFrom] at hw
    split at hw
    · split at hw
      · exact ih (by simp) hw
      · rcases List.mem_cons.1 hw with rfl | hw
        · exact hword c (List.mem_reverse.1 hc)
        · exact ih (by simp) hw
    · next hx =>
      refine @ih (x :: word) ?_ hw
      intro y hy
      rcases List.mem_cons.1 hy with rfl | hy
      · simpa using hx
      · exact hword y hy

/-- A word holds no blank. -/
theorem not_isBlank_of_mem_words {text w : List Char} {c : Char} (hw : w ∈ words text)
    (hc : c ∈ w) : isBlank c = false :=
  not_isBlank_of_mem_wordsFrom (by simp) hw hc

end Shellbox.Text
