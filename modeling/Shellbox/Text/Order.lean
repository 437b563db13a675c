/-!
# Names in order

Lists of names in increasing order of their code points, each name once, and the least character
of a list.
-/

namespace Shellbox.Text

/-- Puts a name in its place in an increasing list, unless it is there. -/
def insertName (name : String) : List String → List String
  | [] => [name]
  | first :: rest =>
    if name < first then name :: first :: rest
    else if name = first then first :: rest
    else first :: insertName name rest

/-- The names of a list in increasing order, each once. -/
def sortNames (names : List String) : List String := names.foldr insertName []

/-- The least character of a list. -/
def leastChar? : List Char → Option Char
  | [] => none
  | c :: rest =>
    match leastChar? rest with
    | none => some c
    | some d => some (if c ≤ d then c else d)

@[simp] theorem mem_insertName {name x : String} {names : List String} :
    x ∈ insertName name names ↔ x = name ∨ x ∈ names := by
  induction names with
  | nil => simp [insertName]
  | cons first rest ih =>
    simp only [insertName]
    split
    · simp
    · split
      · next h => subst h; simp
      · simp only [List.mem_cons, ih]
        constructor
        · rintro (h | h | h) <;> simp [h]
        · rintro (h | h | h) <;> simp [h]

/-- Sorting keeps exactly the names that were there. -/
@[simp] theorem mem_sortNames {x : String} {names : List String} :
    x ∈ sortNames names ↔ x ∈ names := by
  induction names with
  | nil => simp [sortNames]
  | cons first rest ih =>
    simp only [sortNames, List.foldr_cons, mem_insertName, List.mem_cons] at *
    rw [ih]

end Shellbox.Text
