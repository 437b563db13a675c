import Shellbox.FileTree.Entries
import Shellbox.FileTree.Fault
/-!
# File trees and looking things up in them

A file tree is its root directory. `resolve` walks a path down from the root and tells the first
obstacle: a file on the way, or a component that is not there. The other questions (listing a
directory, walking a subtree, listing files) start with the same walk.
-/

namespace Shellbox

/-- A file tree, given by the stamps and the children of its root directory. -/
structure FileTree where
  stamps : Stamps
  inside : Entries
  deriving DecidableEq, Repr, Inhabited

/-- One child in a directory listing. The size of a directory is zero. -/
structure Listed where
  name : String
  path : Path
  isDir : Bool
  size : Nat
  modified : Nat
  deriving DecidableEq, Repr

/-- Walks down from a node that stands at `seen` and gives the node at the end of the path, or
the first obstacle on the way. -/
def Node.descend (seen : Path) : Path → Node → Except Fault Node
  | [], node => .ok node
  | _ :: _, .file .. => .error (.notADirectory seen)
  | name :: rest, .dir _ inside =>
    match inside.find? name with
    | none => .error (.missing (seen ++ [name]))
    | some child => child.descend (seen ++ [name]) rest

/-- The walk finds exactly the node at the path. -/
theorem Node.descend_eq_ok_iff {node found : Node} {seen path : Path} :
    node.descend seen path = .ok found ↔ node.at? path = some found := by
  induction path generalizing node seen with
  | nil => simp [descend, at?]
  | cons name rest ih =>
    cases node with
    | file stamps text => simp [descend, at?]
    | dir stamps inside =>
      simp only [descend, at?]
      cases inside.find? name with
      | none => simp
      | some child => simpa using ih

namespace FileTree

/-- The tree with an empty root directory made at time zero. -/
def empty : FileTree := ⟨.fresh 0, .nil⟩

/-- The root directory as a node. -/
def root (tree : FileTree) : Node := .dir tree.stamps tree.inside

/-- The node at a path, if there is one. -/
def at? (tree : FileTree) (path : Path) : Option Node := tree.root.at? path

/-- The node at a path, or the first obstacle met on the way from the root. -/
def resolve (tree : FileTree) (path : Path) : Except Fault Node := tree.root.descend [] path

/-- Whether there is anything at the path. -/
def holds (tree : FileTree) (path : Path) : Bool :=
  match tree.resolve path with
  | .ok _ => true
  | .error _ => false

/-- Whether there is a directory at the path. -/
def hasDir (tree : FileTree) (path : Path) : Bool :=
  match tree.resolve path with
  | .ok (.dir ..) => true
  | _ => false

/-- Whether there is a file at the path. -/
def hasFile (tree : FileTree) (path : Path) : Bool :=
  match tree.resolve path with
  | .ok (.file ..) => true
  | _ => false

/-- The children of the directory at a path. -/
def directory (tree : FileTree) (path : Path) : Except Fault Entries := do
  match ← tree.resolve path with
  | .dir _ inside => .ok inside
  | .file .. => .error (.notADirectory path)

/-- The listing of the directory at a path. -/
def list (tree : FileTree) (path : Path) : Except Fault (List Listed) := do
  let inside ← tree.directory path
  return inside.toList.map fun (name, node) =>
    match node with
    | .file stamps text => ⟨name, path ++ [name], false, text.length, stamps.modified⟩
    | .dir stamps _ => ⟨name, path ++ [name], true, 0, stamps.modified⟩

/-- The text of the file at a path. -/
def fileText (tree : FileTree) (path : Path) : Except Fault String := do
  match path.split? with
  | none => .error .rootAsTarget
  | some (parent, name) =>
    match (← tree.directory parent).find? name with
    | none => .error (.missing path)
    | some (.dir ..) => .error (.isADirectory path)
    | some (.file _ text) => .ok text

/-- Everything at or below a path: a directory before what is inside it. -/
def walk (tree : FileTree) (path : Path) : Except Fault (List (Path × Node)) := do
  let node ← tree.resolve path
  return node.walk path

/-- The files at a path, directly in it or, if `deep` holds, anywhere below it. -/
def files (tree : FileTree) (path : Path) (deep : Bool) : Except Fault (List (Path × String)) := do
  match ← tree.resolve path with
  | .file _ text => return [(path, text)]
  | .dir _ inside => return inside.files deep path

/-- The whole tree in the order of `walk`. -/
def toList (tree : FileTree) : List (Path × Node) := tree.root.walk []

/-- Changes the node at a path. A change that does not leave a directory at the root is
dropped. -/
def amend (tree : FileTree) (path : Path) (change : Node → Node) : FileTree :=
  match tree.root.amend change path with
  | .dir stamps inside => ⟨stamps, inside⟩
  | .file .. => tree

end FileTree

end Shellbox
