import Shellbox.FileTree.Path
/-!
# Path texts with their anchors

Before a path text is put in relation to the root it has an anchor, the place that it starts from,
and components, of which `..` is one. The anchor depends on the slashes in front: without any the
text goes on from a working directory, and POSIX gives a text with exactly two of them a root of its
own, which is not the root of one slash or of three. `AnchoredPath.normalized` brings a text to the
root by way of its anchor, which stands among the components as if it were one of them.

| Function | What it gives |
|---|---|
| `AnchoredPath.ofText` | the anchor and the components of a text |
| `AnchoredPath.join` | one path gone on from another one |
| `AnchoredPath.normalized` | the path from the root that a text means in a working directory |
-/

namespace Shellbox

/-- Where a path text starts. -/
inductive AnchoredPath.Anchor where
  /-- At a working directory: no slash in front. -/
  | relative
  /-- At the root. -/
  | root
  /-- At the root that belongs to exactly two slashes. -/
  | doubled
  deriving DecidableEq, Repr

namespace AnchoredPath.Anchor

/-- The anchor of a text that starts with a number of slashes. -/
def ofSlashes : Nat → Anchor
  | 0 => relative
  | 2 => doubled
  | _ => root

/-- The anchor as a component, if there is one. -/
def parts : Anchor → List String
  | relative => []
  | root => ["/"]
  | doubled => ["//"]

end AnchoredPath.Anchor

/-- A path text as its anchor and the components behind it. -/
structure AnchoredPath where
  anchor : AnchoredPath.Anchor
  names : List String
  deriving DecidableEq, Repr

namespace AnchoredPath

/-- The components between the slashes of a text. Empty ones and `.` do not count. -/
def components (text : List Char) : List String :=
  ((text.splitOn '/').map String.ofList).filter fun part => part ≠ "" ∧ part ≠ "."

/-- The path that a text is. -/
def ofText (text : String) : AnchoredPath :=
  ⟨.ofSlashes (text.toList.takeWhile (· == '/')).length,
    components (text.toList.dropWhile (· == '/'))⟩

/-- The second path as seen from the first one. It stays as it is if it has an anchor. -/
def join (first second : AnchoredPath) : AnchoredPath :=
  match second.anchor with
  | .relative => ⟨first.anchor, first.names ++ second.names⟩
  | _ => second

/-- The anchor, if there is one, and the components. -/
def parts (path : AnchoredPath) : List String := path.anchor.parts ++ path.names

/-- Goes on by one part. The root of one slash is nothing to keep, and `..` takes the part that was
kept last. -/
def visit (kept : List String) (part : String) : List String :=
  if part = "" ∨ part = "/" ∨ part = "." then kept
  else if part = ".." then kept.dropLast
  else kept ++ [part]

/-- The path that a text means in a working directory, before `..` is looked at. -/
def located (cwd : String) : Option String → AnchoredPath
  | none => ofText cwd
  | some text =>
    if text = "" then ofText cwd
    else if (ofText text).anchor = .relative then ((ofText "/").join (ofText cwd)).join (ofText text)
    else ofText text

/-- The path from the root that a text means in a working directory. -/
def normalized (cwd : String) (text : Option String) : AnchoredPath :=
  match (located cwd text).parts.foldl visit [] with
  | [] => ofText "/"
  | kept => ofText ("/" ++ Text.joinWith "/" kept)

example : normalized "//home" (some "../../a/./b") = ⟨.root, ["a", "b"]⟩ := by decide +kernel
example : normalized "x" (some "//y") = ⟨.root, ["y"]⟩ := by decide +kernel

end AnchoredPath

end Shellbox
