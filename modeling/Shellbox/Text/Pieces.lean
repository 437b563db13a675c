/-!
# Pieces between separators

Cutting a text at every occurrence of one character. A text with `n` separators has `n + 1`
pieces, empty ones included, and joining the pieces with the separator gives the text back
(`joined_pieces`).
-/

namespace Shellbox.Text

/-- The pieces of a list between the occurrences of `sep`. There is always at least one. -/
def pieces {α : Type} [DecidableEq α] (sep : α) : List α → List (List α)
  | [] => [[]]
  | c :: rest =>
    if c = sep then [] :: pieces sep rest
    else
      match pieces sep rest with
      | [] => [[c]]
      | first :: others => (c :: first) :: others

/-- Lists put one behind the other with a separator between neighbours. -/
def joined {α : Type} (sep : List α) : List (List α) → List α
  | [] => []
  | [piece] => piece
  | piece :: others => piece ++ sep ++ joined sep others

/-- Strings put one behind the other with a separator between neighbours. -/
def joinWith (sep : String) (pieces : List String) : String :=
  String.ofList (joined sep.toList (pieces.map String.toList))

@[simp] theorem toList_joinWith (sep : String) (pieces : List String) :
    (joinWith sep pieces).toList = joined sep.toList (pieces.map String.toList) := by
  simp [joinWith]

/-- Whether `needle` stands somewhere in the list as a run of neighbours. -/
def occursIn {α : Type} [DecidableEq α] (needle : List α) : List α → Bool
  | [] => needle.isEmpty
  | c :: rest => needle.isPrefixOf (c :: rest) || occursIn needle rest

theorem pieces_ne_nil {α : Type} [DecidableEq α] (sep : α) (text : List α) :
    pieces sep text ≠ [] := by
  cases text with
  | nil => simp [pieces]
  | cons c rest =>
    simp only [pieces]
    split
    · simp
    · split <;> simp

/-- Joining the pieces with the separator gives the text back. -/
theorem joined_pieces {α : Type} [DecidableEq α] (sep : α) (text : List α) :
    joined [sep] (pieces sep text) = text := by
  induction text with
  | nil => rfl
  | cons c rest ih =>
    simp only [pieces]
    have hne := pieces_ne_nil sep rest
    split
    · next h =>
      subst h
      cases hp : pieces c rest with
      | nil => exact absurd hp hne
      | cons first others => simp [joined, ← hp, ih]
    · cases hp : pieces sep rest with
      | nil => exact absurd hp hne
      | cons first others =>
        rw [hp] at ih
        cases others with
        | nil => simp only [joined] at ih ⊢; rw [ih]
        | cons second more => simpa [joined] using ih

end Shellbox.Text
