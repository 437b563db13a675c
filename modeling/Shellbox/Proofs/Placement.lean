import Mathlib.Tactic.ByContra
import Shellbox.FileTree.Lookup
import Shellbox.Proofs.Children
/-!
# What a path holds

A file tree is a map from paths to what a path holds: a directory, or a file with its text
(`FileTree.content?`). The map is closed upwards: above anything that a tree holds there are
directories (`FileTree.content?_of_append`).

A change of the node at `path` shows at `path` and below (`Node.at?_amend_append`). Anywhere else
the tree holds what it held before, the stamps included (`Node.at?_amend_elsewhere`): a directory
above `path` has other children inside, but is the same node without them (`Node.shallow`).
-/

namespace Shellbox

/-- What a path holds, without stamps and without what is below it. -/
inductive Content where
  /-- A directory. -/
  | dir
  /-- A file with its text. -/
  | file (text : String)
  deriving DecidableEq, Repr

/-- The prefixes of a path that is not the root are the root and those that go on from its first
name. -/
theorem Path.forall_prefix_cons_iff {P : Path → Prop} {name : String} {rest : Path} :
    (∀ front, front <+: name :: rest → P front) ↔
      P [] ∧ ∀ front, front <+: rest → P (name :: front) := by
  constructor
  · intro h
    exact ⟨h [] List.nil_prefix, fun front hfront => h _ (List.cons_prefix_cons.2 ⟨rfl, hfront⟩)⟩
  · rintro ⟨hroot, hbelow⟩ front hfront
    rcases List.prefix_cons_iff.1 hfront with rfl | ⟨below, rfl, hrest⟩
    · exact hroot
    · exact hbelow below hrest

namespace Node

/-- What a node is. -/
def content : Node → Content
  | file _ text => .file text
  | dir .. => .dir

/-- The node without what is inside it. -/
def shallow : Node → Node
  | file stamps text => file stamps text
  | dir stamps _ => dir stamps .nil

@[simp] theorem content_shallow (node : Node) : node.shallow.content = node.content := by
  cases node <;> rfl

@[simp] theorem at?_nil (node : Node) : node.at? [] = some node := rfl

@[simp] theorem at?_cons_file (name : String) (rest : Path) (stamps : Stamps) (text : String) :
    (file stamps text).at? (name :: rest) = none := rfl

@[simp] theorem at?_cons_dir (name : String) (rest : Path) (stamps : Stamps) (inside : Entries) :
    (dir stamps inside).at? (name :: rest) = (inside.find? name).bind (at? rest) := rfl

/-- Going down a path and then a second one is going down the two in a row. -/
theorem at?_append (path rest : Path) (node : Node) :
    node.at? (path ++ rest) = (node.at? path).bind (at? rest) := by
  induction path generalizing node with
  | nil => rfl
  | cons name path ih =>
    cases node with
    | file stamps text => rfl
    | dir stamps inside =>
      rw [List.cons_append, at?_cons_dir, at?_cons_dir]
      cases inside.find? name with
      | none => rfl
      | some child => exact ih child

theorem content_eq_dir_iff {node : Node} : node.content = .dir ↔ node.isDir = true := by
  cases node <;> simp [content, isDir]

/-- A change at a path shows at the path and below. -/
theorem at?_amend_append (change : Node → Node) (path rest : Path) (node : Node) :
    (node.amend change path).at? (path ++ rest) =
      (node.at? path).bind fun found => (change found).at? rest := by
  induction path generalizing node with
  | nil => rfl
  | cons name path ih =>
    cases node with
    | file stamps text => rfl
    | dir stamps inside =>
      rw [List.cons_append, at?_cons_dir, amend]
      cases h : inside.find? name with
      | none => simp [h]
      | some child =>
        simp only [at?_cons_dir, Entries.find?_replace, if_pos, h, Option.map_some,
          Option.bind_some]
        exact ih child

/-- What does not depend on the child that stands under a name is the same everywhere but at a change
and below. -/
theorem map_at?_amend_elsewhere {β : Type} {view : Node → β}
    (hview : ∀ stamps inside name child,
      view (dir stamps (inside.replace name child)) = view (dir stamps inside))
    (change : Node → Node) {path other : Path} (h : ¬path <+: other) (node : Node) :
    ((node.amend change path).at? other).map view = (node.at? other).map view := by
  induction path generalizing other node with
  | nil => exact absurd List.nil_prefix h
  | cons name path ih =>
    cases node with
    | file stamps text => rfl
    | dir stamps inside =>
      rw [amend]
      cases hname : inside.find? name with
      | none => rfl
      | some child =>
        cases other with
        | nil => exact congrArg some (hview stamps inside name _)
        | cons first rest =>
          simp only [at?_cons_dir, Entries.find?_replace]
          by_cases hfirst : first = name
          · subst hfirst
            have hrest : ¬path <+: rest := fun hp => h (List.cons_prefix_cons.2 ⟨rfl, hp⟩)
            simpa [hname] using ih hrest child
          · rw [if_neg hfirst]

/-- A change at a path shows nowhere else, but for what is inside the directories above it. -/
theorem at?_amend_elsewhere (change : Node → Node) {path other : Path} (h : ¬path <+: other)
    (node : Node) :
    ((node.amend change path).at? other).map shallow = (node.at? other).map shallow :=
  map_at?_amend_elsewhere (fun _ _ _ _ => rfl) change h node

/-- A change further down is a change of what is above. -/
theorem amend_append (change : Node → Node) (path rest : Path) (node : Node) :
    node.amend change (path ++ rest) = node.amend (amend change rest) path := by
  induction path generalizing node with
  | nil => rfl
  | cons name path ih =>
    cases node with
    | file stamps text => rfl
    | dir stamps inside =>
      rw [List.cons_append, amend, amend]
      cases inside.find? name with
      | none => rfl
      | some child => simp only [ih]

/-- Changes at one path may be made at once, and only what they do to the node at the path counts. -/
theorem amend_amend_eq {change first second : Node → Node} {path : Path} {node found : Node}
    (hat : node.at? path = some found) (hchange : second (first found) = change found) :
    (node.amend first path).amend second path = node.amend change path := by
  induction path generalizing node with
  | nil =>
    obtain rfl := Option.some.inj hat
    exact hchange
  | cons name path ih =>
    cases node with
    | file stamps text => cases hat
    | dir stamps inside =>
      obtain ⟨child, hchild, hrest⟩ := Option.bind_eq_some_iff.1 hat
      have hreplaced : (inside.replace name (child.amend first path)).find? name =
          some (child.amend first path) := by
        rw [Entries.find?_replace, if_pos rfl, hchild, Option.map_some]
      simp only [amend, hchild, hreplaced]
      rw [Entries.replace_replace, ih hrest]

/-- A change that makes no file of a directory, nor the other way round, does neither anywhere. -/
theorem isDir_amend {change : Node → Node} (h : ∀ node, (change node).isDir = node.isDir)
    (path : Path) (node : Node) : (node.amend change path).isDir = node.isDir := by
  cases path with
  | nil => exact h node
  | cons name path =>
    cases node with
    | file stamps text => rfl
    | dir stamps inside =>
      rw [amend]
      cases inside.find? name <;> rfl

theorem isDir_relisted (now : Nat) (change : Entries → Entries) (node : Node) :
    (node.relisted now change).isDir = node.isDir := by
  cases node <;> rfl

theorem isDir_touched (now : Nat) (node : Node) : (node.touched now).isDir = node.isDir := by
  cases node <;> rfl

theorem isDir_withText (now : Nat) (text : String) (node : Node) :
    (node.withText now text).isDir = node.isDir := by
  cases node <;> rfl

end Node

namespace FileTree

/-- What a path of the tree holds, if it holds anything. -/
def content? (tree : FileTree) (path : Path) : Option Content := (tree.at? path).map Node.content

theorem at?_eq_root (tree : FileTree) (path : Path) : tree.at? path = tree.root.at? path := rfl

@[simp] theorem content?_nil (tree : FileTree) : tree.content? [] = some .dir := rfl

/-- The root of a changed tree, when the change keeps directories and files apart. -/
theorem root_amend {change : Node → Node} (h : ∀ node, (change node).isDir = node.isDir)
    (tree : FileTree) (path : Path) :
    (tree.amend path change).root = tree.root.amend change path := by
  have hroot : (tree.root.amend change path).isDir = true := Node.isDir_amend h path tree.root
  unfold amend
  cases hnode : tree.root.amend change path with
  | dir stamps inside => rfl
  | file stamps text => rw [hnode] at hroot; cases hroot

/-- Above anything that a tree holds there are directories. -/
theorem content?_of_append {tree : FileTree} {path rest : Path} (hrest : rest ≠ [])
    (h : tree.content? (path ++ rest) ≠ none) : tree.content? path = some .dir := by
  rw [content?, at?_eq_root, Node.at?_append] at h
  rw [content?, at?_eq_root]
  obtain ⟨name, rest, rfl⟩ := List.exists_cons_of_ne_nil hrest
  cases hnode : tree.root.at? path with
  | none => simp [hnode] at h
  | some node =>
    cases node with
    | file stamps text => simp [hnode] at h
    | dir stamps inside => rfl

/-- Below anything but a directory a tree holds nothing. -/
theorem content?_append_eq_none {tree : FileTree} {path rest : Path}
    (h : tree.content? path ≠ some .dir) (hrest : rest ≠ []) :
    tree.content? (path ++ rest) = none := by
  by_contra hsome
  exact h (content?_of_append hrest hsome)

/-- Where a tree holds nothing, it holds nothing below either. -/
theorem content?_eq_none_of_prefix {tree : FileTree} {path other : Path}
    (h : tree.content? path = none) (hbelow : path <+: other) : tree.content? other = none := by
  obtain ⟨rest, rfl⟩ := hbelow
  cases rest with
  | nil => rwa [List.append_nil]
  | cons first rest => exact content?_append_eq_none (by simp [h]) (List.cons_ne_nil first rest)

/-- There is no file on the way to a directory. -/
theorem content?_ne_file_of_prefix {tree : FileTree} {path front : Path}
    (h : tree.content? path = some .dir) (hfront : front <+: path) (text : String) :
    tree.content? front ≠ some (.file text) := by
  intro hfile
  obtain ⟨rest, rfl⟩ := hfront
  by_cases hrest : rest = []
  · rw [hrest, List.append_nil, hfile] at h
    cases h
  · rw [content?_append_eq_none (by simp [hfile]) hrest] at h
    cases h

/-- The children of a directory can be listed exactly if it is there. -/
theorem directory_eq_ok_iff {tree : FileTree} {path : Path} {inside : Entries} :
    tree.directory path = .ok inside ↔ ∃ stamps, tree.at? path = some (.dir stamps inside) := by
  have hresolve := @Node.descend_eq_ok_iff tree.root
  unfold directory resolve
  cases hnode : tree.root.descend [] path with
  | error fault =>
    have hnone : tree.at? path = none := by
      cases hat : tree.at? path with
      | none => rfl
      | some found => rw [hresolve.2 hat] at hnode; cases hnode
    simp [hnone, bind, Except.bind]
  | ok node =>
    rw [at?_eq_root, hresolve.1 hnode]
    cases node <;> simp [bind, Except.bind]

theorem directory_ok_iff_content? {tree : FileTree} {path : Path} :
    (∃ inside, tree.directory path = .ok inside) ↔ tree.content? path = some .dir := by
  simp only [directory_eq_ok_iff, content?, Option.map_eq_some_iff]
  constructor
  · rintro ⟨inside, stamps, h⟩
    exact ⟨_, h, rfl⟩
  · rintro ⟨node, hat, hdir⟩
    cases node with
    | file stamps text => cases hdir
    | dir stamps inside => exact ⟨inside, stamps, hat⟩

theorem resolve_eq_ok_iff {tree : FileTree} {path : Path} {node : Node} :
    tree.resolve path = .ok node ↔ tree.at? path = some node :=
  Node.descend_eq_ok_iff

theorem hasDir_iff {tree : FileTree} {path : Path} :
    tree.hasDir path = true ↔ tree.content? path = some .dir := by
  rw [← directory_ok_iff_content?, hasDir, directory]
  cases tree.resolve path with
  | error fault => simp [bind, Except.bind]
  | ok node => cases node <;> simp [bind, Except.bind]

theorem hasFile_iff {tree : FileTree} {path : Path} :
    tree.hasFile path = true ↔ ∃ text, tree.content? path = some (.file text) := by
  have hat := @resolve_eq_ok_iff tree path
  rw [hasFile, content?]
  cases hresolve : tree.resolve path with
  | error fault =>
    rw [hresolve] at hat
    cases hnode : tree.at? path with
    | none => simp
    | some node => cases hat.2 hnode
  | ok node =>
    rw [hat.1 hresolve]
    cases node <;> simp [Node.content]

/-- The children of a directory are what its path followed by their names holds. -/
theorem content?_child {tree : FileTree} {path : Path} {inside : Entries}
    (h : tree.directory path = .ok inside) (name : String) :
    tree.content? (path ++ [name]) = (inside.find? name).map Node.content := by
  obtain ⟨stamps, hat⟩ := directory_eq_ok_iff.1 h
  rw [content?, at?_eq_root, Node.at?_append, ← at?_eq_root, hat]
  cases hname : inside.find? name <;> simp [hname]

end FileTree
end Shellbox
