import Shellbox.Text.Pieces
/-!
# Paths

A path inside the file tree is the list of its components from the root; the root is the empty
list. A path text is read without looking at the tree: it is cut at slashes, empty and `.`
components are dropped, and `..` drops the component kept last, if there is one. A text that
does not start with a slash goes on from a working directory.

| Function | What it gives |
|---|---|
| `Path.read` | the path that a text means from a working directory |
| `Path.render` | the path as a text |
| `Path.within` | whether one path lies at or below another, component by component |
-/

namespace Shellbox

/-- The components of a path from the root downwards. -/
abbrev Path := List String

namespace Path

/-- The parts of a path text between its slashes, empty ones included. -/
def parts (text : String) : List String :=
  (Text.pieces '/' text.toList).map String.ofList

/-- Goes on from a path by one part of a path text. -/
def step (kept : Path) (part : String) : Path :=
  if part = "" ∨ part = "." then kept
  else if part = ".." then kept.dropLast
  else kept ++ [part]

/-- Goes on from a path by a path text, as if the text did not start with a slash. -/
def extend (base : Path) (text : String) : Path := (parts text).foldl step base

/-- Whether a path text starts at the root. -/
def isAbsolute (text : String) : Bool := text.toList.head? == some '/'

/-- The path that a text means in a working directory given by its path. -/
def readFrom (base : Path) (text : String) : Path :=
  extend (if isAbsolute text then [] else base) text

/-- The path that a text means in a working directory given as a text. Without a text it is the
working directory itself. -/
def read (cwd : String) (text : Option String) : Path :=
  readFrom (extend [] cwd) (text.getD "")

/-- The text of a path. -/
def render (path : Path) : String := "/" ++ Text.joinWith "/" path

/-- The path of the directory that holds a path, and the last component. The root has none. -/
def split? (path : Path) : Option (Path × String) :=
  path.getLast?.map fun name => (path.dropLast, name)

/-- Whether `path` is `top` or lies below it. -/
def within (top path : Path) : Bool := top.isPrefixOf path

/-- The directory and the last component make up the path. -/
theorem append_of_split? {path parent : Path} {name : String}
    (h : path.split? = some (parent, name)) : parent ++ [name] = path := by
  simp only [split?, Option.map_eq_some_iff] at h
  obtain ⟨last, hlast, heq⟩ := h
  obtain ⟨rfl, rfl⟩ := Prod.mk.inj heq
  obtain ⟨front, rfl⟩ := List.getLast?_eq_some_iff.1 hlast
  simp

example : read "/home" (some "./a//../b/") = ["home", "b"] := by decide +kernel
example : read "x/y" none = ["x", "y"] := by decide +kernel

end Path

end Shellbox
