import Mathlib.Data.List.Nodup
import Shellbox.Proofs.WellNamed
/-!
# Every node has its path

In a well-named tree the nodes and their paths correspond to each other. The walk through the tree
lists a node with a path exactly if the path leads to it (`Node.WellNamed.mem_walk_iff`), and no path
twice (`Node.WellNamed.nodup_walk`): where two children of a directory have different names, so have
all paths that go through them. The paths consist of proper names, so each is written as a text that
means this path again (`Path.read_render`).

Requests leave a well-named tree well named (`FileTree.WellNamed.afterRequests`). So whatever was
asked of a tree since it was empty, its files and directories and their paths belong together in the
way that `FileTree.Addressed` spells out (`FileTree.addressed_afterRequests`).
-/

namespace Shellbox

/-! ### The walk -/

namespace Entries

/-- Induction along a list of children and down into the directories among them. -/
@[elab_as_elim]
theorem deepInduction {motive : Entries → Prop} (nil : motive .nil)
    (cons : ∀ name node rest, (∀ stamps inside, node = .dir stamps inside → motive inside) →
      motive rest → motive (cons name node rest)) : ∀ entries, motive entries
  | .nil => nil
  | .file name stamps text rest =>
    cons name (.file stamps text) rest (fun _ _ h => nomatch h) (deepInduction nil cons rest)
  | .dir name stamps inside rest =>
    cons name (.dir stamps inside) rest
      (fun _ _ h => (Node.dir.inj h).2 ▸ deepInduction nil cons inside)
      (deepInduction nil cons rest)

variable {name : String} {node found : Node} {entries rest : Entries} {top path : Path}

theorem walk_cons :
    (cons name node rest).walk top = node.walk (top ++ [name]) ++ rest.walk top := by
  cases node <;> rfl

/-- The walk goes from child to child. -/
theorem walk_eq_flatMap (entries : Entries) (top : Path) :
    entries.walk top = entries.toList.flatMap fun child => child.2.walk (top ++ [child.1]) := by
  induction entries using deepInduction with
  | nil => rfl
  | cons name node rest _ ih => rw [walk_cons, toList_cons, List.flatMap_cons, ih]

end Entries

/-- What the walk from a node lists, if it is known of the children of a directory. -/
theorem Node.mem_walk_of_inside {node found : Node} {top path : Path}
    (hinside : ∀ stamps inside, node = .dir stamps inside →
      ((path, found) ∈ inside.walk top ↔ ∃ name rest, path = top ++ name :: rest ∧
        (inside.find? name).bind (Node.at? rest) = some found)) :
    (path, found) ∈ node.walk top ↔ ∃ rest, path = top ++ rest ∧ node.at? rest = some found := by
  cases node with
  | file stamps text =>
    rw [walk, List.mem_singleton, Prod.mk.injEq]
    constructor
    · rintro ⟨rfl, rfl⟩
      exact ⟨[], (List.append_nil path).symm, rfl⟩
    · rintro ⟨rest, rfl, hat⟩
      cases rest with
      | nil => exact ⟨List.append_nil top, (Option.some.inj hat).symm⟩
      | cons name rest => cases hat
  | dir stamps inside =>
    rw [walk, List.mem_cons, hinside stamps inside rfl, Prod.mk.injEq]
    constructor
    · rintro (⟨rfl, rfl⟩ | ⟨name, rest, rfl, hat⟩)
      · exact ⟨[], (List.append_nil path).symm, rfl⟩
      · exact ⟨name :: rest, rfl, hat⟩
    · rintro ⟨rest, rfl, hat⟩
      cases rest with
      | nil => exact Or.inl ⟨List.append_nil top, (Option.some.inj hat).symm⟩
      | cons name rest => exact Or.inr ⟨name, rest, rfl, hat⟩

/-- The walk through the children of a directory lists what the paths below the directory lead to.
A child that comes later has another name, so it is the first one of its name. -/
theorem Entries.WellNamed.mem_walk_iff {entries : Entries} {found : Node} {top path : Path}
    (h : entries.WellNamed) :
    (path, found) ∈ entries.walk top ↔ ∃ name rest, path = top ++ name :: rest ∧
      (entries.find? name).bind (Node.at? rest) = some found := by
  induction entries using deepInduction generalizing top with
  | nil => simp [walk, find?]
  | cons name node rest ihInside ih =>
    obtain ⟨-, hnew, hnode, hrest⟩ := wellNamed_cons.1 h
    have hchild : (path, found) ∈ node.walk (top ++ [name]) ↔
        ∃ below, path = top ++ [name] ++ below ∧ node.at? below = some found :=
      Node.mem_walk_of_inside fun stamps inside heq =>
        ihInside stamps inside heq (by rw [heq] at hnode; exact hnode)
    rw [walk_cons, List.mem_append, hchild, ih hrest]
    constructor
    · rintro (⟨below, rfl, hat⟩ | ⟨other, below, rfl, hat⟩)
      · refine ⟨name, below, by rw [List.append_assoc, List.singleton_append], ?_⟩
        rw [find?_cons, if_pos rfl]
        exact hat
      · obtain ⟨child, hfind, -⟩ := Option.bind_eq_some_iff.1 hat
        have hother : name ≠ other := by
          rintro rfl
          rw [find?_eq_none_iff.2 hnew] at hfind
          cases hfind
        exact ⟨other, below, rfl, by rwa [find?_cons, if_neg hother]⟩
    · rintro ⟨other, below, rfl, hat⟩
      rw [find?_cons] at hat
      split_ifs at hat with hname
      · subst hname
        exact Or.inl ⟨below, by rw [List.append_assoc, List.singleton_append], hat⟩
      · exact Or.inr ⟨other, below, rfl, hat⟩

/-- **The walk from a node lists what the paths below the node lead to.** -/
theorem Node.WellNamed.mem_walk_iff {node found : Node} {top path : Path} (h : node.WellNamed) :
    (path, found) ∈ node.walk top ↔ ∃ rest, path = top ++ rest ∧ node.at? rest = some found :=
  mem_walk_of_inside fun _ _ heq => Entries.WellNamed.mem_walk_iff (by rw [heq] at h; exact h)

theorem Node.WellNamed.nodup_walk_of_inside {node : Node} {top : Path} (h : node.WellNamed)
    (hinside : ∀ stamps inside, node = .dir stamps inside →
      ((inside.walk top).map Prod.fst).Nodup) : ((node.walk top).map Prod.fst).Nodup := by
  cases node with
  | file stamps text => exact List.nodup_singleton top
  | dir stamps inside =>
    rw [walk, List.map_cons, List.nodup_cons]
    refine ⟨fun hmem => ?_, hinside stamps inside rfl⟩
    obtain ⟨⟨path, found⟩, hlisted, rfl⟩ := List.mem_map.1 hmem
    obtain ⟨name, rest, hpath, -⟩ := (Entries.WellNamed.mem_walk_iff h).1 hlisted
    exact List.cons_ne_nil name rest (List.append_right_eq_self.1 hpath.symm)

/-- The paths through one child are not those through another one. -/
theorem Entries.WellNamed.nodup_walk {entries : Entries} (h : entries.WellNamed) (top : Path) :
    ((entries.walk top).map Prod.fst).Nodup := by
  induction entries using deepInduction generalizing top with
  | nil => exact List.nodup_nil
  | cons name node rest ihInside ih =>
    obtain ⟨-, hnew, hnode, hrest⟩ := wellNamed_cons.1 h
    have hchild : ((node.walk (top ++ [name])).map Prod.fst).Nodup :=
      hnode.nodup_walk_of_inside fun stamps inside heq =>
        ihInside stamps inside heq (by rw [heq] at hnode; exact hnode) _
    rw [walk_cons, List.map_append, List.nodup_append]
    refine ⟨hchild, ih hrest top, fun path hpath other hother heq => ?_⟩
    obtain ⟨⟨_, found⟩, hlisted, rfl⟩ := List.mem_map.1 hpath
    obtain ⟨⟨_, later⟩, hlater, rfl⟩ := List.mem_map.1 hother
    obtain ⟨below, hbelow, -⟩ := hnode.mem_walk_iff.1 hlisted
    obtain ⟨second, beyond, hbeyond, hat⟩ := hrest.mem_walk_iff.1 hlater
    obtain ⟨child, hfind, -⟩ := Option.bind_eq_some_iff.1 hat
    have hname : name = second := by
      simp only [hbelow, hbeyond, List.append_assoc, List.singleton_append,
        List.append_cancel_left_eq, List.cons.injEq] at heq
      exact heq.1
    rw [← hname, find?_eq_none_iff.2 hnew] at hfind
    cases hfind

/-- **The walk from a node lists no path twice.** -/
theorem Node.WellNamed.nodup_walk {node : Node} (h : node.WellNamed) (top : Path) :
    ((node.walk top).map Prod.fst).Nodup :=
  h.nodup_walk_of_inside fun _ _ heq => Entries.WellNamed.nodup_walk (by rw [heq] at h; exact h) top

/-- Different paths of proper names are written differently. -/
theorem Path.nodup_map_render {paths : List Path}
    (hproper : ∀ path ∈ paths, ∀ name ∈ path, Edit.isName name) (h : paths.Nodup) :
    (paths.map render).Nodup :=
  List.Nodup.map_on (fun path hpath other hother heq =>
    eq_of_render_eq (hproper path hpath) (hproper other hother) heq) h

/-! ### Trees -/

namespace FileTree

theorem holds_iff {tree : FileTree} {path : Path} :
    tree.holds path = true ↔ ∃ node, tree.at? path = some node := by
  simp only [← resolve_eq_ok_iff, holds]
  cases tree.resolve path <;> simp

theorem holds_iff_content? {tree : FileTree} {path : Path} :
    tree.holds path = true ↔ tree.content? path ≠ none := by
  rw [holds_iff, content?]
  cases tree.at? path <;> simp

/-- What has a name is the child of that name of a directory. -/
theorem at?_concat {tree : FileTree} {parent : Path} {name : String} {node : Node}
    (h : tree.at? (parent ++ [name]) = some node) :
    ∃ stamps inside, tree.at? parent = some (.dir stamps inside) ∧
      inside.find? name = some node := by
  rw [at?_eq_root, Node.at?_append] at h
  obtain ⟨above, habove, hname⟩ := Option.bind_eq_some_iff.1 h
  cases above with
  | file stamps text => cases hname
  | dir stamps inside =>
    obtain ⟨child, hfind, hchild⟩ := Option.bind_eq_some_iff.1 hname
    cases hchild
    exact ⟨stamps, inside, habove, hfind⟩

/-- How the files and directories of a tree and their paths belong together. -/
structure Addressed (tree : FileTree) : Prop where
  /-- In every directory the names of the children are different, a child is found under its own
  name, and no name is empty, `.` or `..` or holds a slash. -/
  children : ∀ path stamps inside, (path, Node.dir stamps inside) ∈ tree.toList →
    inside.names.Nodup ∧ ∀ child ∈ inside.toList, inside.find? child.1 = some child.2 ∧
      child.1 ≠ "" ∧ child.1 ≠ "." ∧ child.1 ≠ ".." ∧ '/' ∉ child.1.toList
  /-- The root has the empty path, so neither a name nor a parent. All else is the child of a
  directory. -/
  parents : ∃ below, tree.toList = ([], tree.root) :: below ∧
    ∀ entry ∈ below, ∃ parent name stamps inside, entry.1 = parent ++ [name] ∧
      (parent, Node.dir stamps inside) ∈ tree.toList ∧ inside.find? name = some entry.2
  /-- The walk from the root, as it is asked for in any working directory, lists the tree. -/
  walk : ∀ cwd, tree.walk (Path.read cwd (some "/")) = .ok tree.toList
  /-- The path of a node, read in any working directory, leads to the node. -/
  resolve : ∀ entry ∈ tree.toList, ∀ cwd,
    tree.resolve (Path.read cwd (some entry.1.render)) = .ok entry.2
  /-- No path is listed twice. -/
  distinct : (tree.toList.map fun entry => entry.1.render).Nodup
  /-- The path of a node is written as it is read. -/
  normal : ∀ entry ∈ tree.toList, ∀ cwd,
    (Path.read cwd (some entry.1.render)).render = entry.1.render
  /-- There is something at a path exactly if the path, once read, is that of a node. -/
  holds : ∀ cwd text, tree.holds (Path.read cwd text) = true ↔
    (Path.read cwd text).render ∈ tree.toList.map fun entry => entry.1.render

namespace WellNamed

variable {tree : FileTree} {path : Path} {node : Node}

/-- The tree lists what its paths lead to. -/
theorem mem_toList_iff (h : tree.WellNamed) :
    (path, node) ∈ tree.toList ↔ tree.at? path = some node := by
  rw [toList, h.root.mem_walk_iff]
  simp only [List.nil_append]
  constructor
  · rintro ⟨rest, rfl, hat⟩
    exact hat
  · exact fun hat => ⟨path, rfl, hat⟩

/-- **In a well-named tree every node has its path.** -/
theorem addressed (h : tree.WellNamed) : tree.Addressed := by
  have hproper : ∀ entry ∈ tree.toList, ∀ name ∈ entry.1, Edit.isName name := fun entry hentry =>
    (h.of_at? (h.mem_toList_iff.1 hentry)).1
  refine ⟨?_, ⟨tree.inside.walk [], rfl, ?_⟩, ?_, ?_, ?_, ?_, ?_⟩
  · intro path stamps inside hmem
    have hinside : inside.WellNamed := (h.of_at? (h.mem_toList_iff.1 hmem)).2
    refine ⟨hinside.nodup_names, fun child hchild => ?_⟩
    have hfind := hinside.find?_of_mem hchild
    exact ⟨hfind, Path.isName_iff.1 (hinside.of_find? hfind).1⟩
  · rintro ⟨path, node⟩ hentry
    have hat := h.mem_toList_iff.1 (List.mem_cons_of_mem ([], tree.root) hentry)
    rcases List.eq_nil_or_concat' path with rfl | ⟨parent, name, rfl⟩
    · obtain ⟨name, rest, hnil, -⟩ := (Entries.WellNamed.mem_walk_iff h).1 hentry
      cases hnil
    · obtain ⟨stamps, inside, hparent, hfind⟩ := at?_concat hat
      exact ⟨parent, name, stamps, inside, rfl, h.mem_toList_iff.2 hparent, hfind⟩
  · intro cwd
    rw [Path.read_slash]
    rfl
  · intro entry hentry cwd
    rw [Path.read_render (hproper entry hentry)]
    exact resolve_eq_ok_iff.2 (h.mem_toList_iff.1 hentry)
  · have hpaths : (tree.toList.map Prod.fst).Nodup := h.root.nodup_walk []
    have hrender := Path.nodup_map_render (List.forall_mem_map.2 hproper) hpaths
    rwa [List.map_map] at hrender
  · intro entry hentry cwd
    rw [Path.read_render (hproper entry hentry)]
  · intro cwd text
    rw [holds_iff, List.mem_map]
    constructor
    · rintro ⟨node, hat⟩
      exact ⟨(Path.read cwd text, node), h.mem_toList_iff.2 hat, rfl⟩
    · rintro ⟨entry, hentry, heq⟩
      rw [← Path.eq_of_render_eq (hproper entry hentry) (Path.isName_of_mem_read cwd text) heq]
      exact ⟨entry.2, h.mem_toList_iff.1 hentry⟩

end WellNamed

end FileTree

/-! ### Requests -/

/-- An operation asked of a tree at a time, with the working directory for its paths. -/
structure Request where
  now : Nat
  cwd : String
  operation : Operation
  deriving DecidableEq, Repr

/-- The tree that a request leaves behind, whether it fails or not. -/
def FileTree.afterRequest (tree : FileTree) (request : Request) : FileTree :=
  (request.operation.perform request.now request.cwd).after tree

/-- The tree after requests one after the other. -/
def FileTree.afterRequests (tree : FileTree) (requests : List Request) : FileTree :=
  requests.foldl afterRequest tree

/-- Requests leave a well-named tree well named. -/
theorem FileTree.WellNamed.afterRequests {tree : FileTree} (h : tree.WellNamed)
    (requests : List Request) : (tree.afterRequests requests).WellNamed := by
  induction requests generalizing tree with
  | nil => exact h
  | cons request requests ih =>
    exact ih (request.operation.preserves_wellNamed request.now request.cwd tree h)

/-- **The files and directories of a tree and their paths belong together**, whatever was asked of
the tree since it was empty, and whether it succeeded or failed. -/
theorem FileTree.addressed_afterRequests (requests : List Request) :
    (empty.afterRequests requests).Addressed := by
  have hempty : empty.WellNamed := trivial
  exact (hempty.afterRequests requests).addressed

/-- A directory that was made with the one above it and then moved out under another name, a file in
it, and two requests that fail. -/
example :
    let requests : List Request :=
      [⟨1, "/", .mkdir "a/b" true false⟩, ⟨2, "/a", .writeFile "./b//x" "text" false⟩,
        ⟨3, "/", .create "/a" ".." "dir"⟩, ⟨4, "/a", .move "b" "../c"⟩,
        ⟨5, "/", .remove "a/b" true⟩]
    (FileTree.empty.afterRequests requests).toList.map (fun entry => entry.1.render) =
      ["/", "/a", "/c", "/c/x"] := by
  decide +kernel

end Shellbox
