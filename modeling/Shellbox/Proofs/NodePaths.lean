import Shellbox.Proofs.HeapCreation
import Shellbox.Proofs.HeapTransfers
import Shellbox.Proofs.TreePaths
/-!
# Every linked node has its path

Linked nodes are asked for the same operations as a tree. Each request does on the nodes what it does
on the tree that they show (`HeapEdit.follows_perform`): it fails for the same cause, or it answers
with the nodes at the paths that the tree answers with. So the nodes show the tree after any requests
(`Heap.Shows.afterRequests`).

The walk through the nodes and the walk through the tree go side by side as well
(`Heap.Fathomed.walk`). With this the correspondence of nodes and paths, which a tree has by its
names, is carried over to nodes that know no more than their own name and the directory that they are
in: `Heap.Addressed` spells it out, and `Heap.nodes_have_their_paths` is the result.
-/

namespace Shellbox

/-! ### One request -/

namespace HeapEdit

variable {heap : Heap} {tree : FileTree} {edit : HeapEdit Ref} {twin : Edit Path}

/-- One node that is at a path, as a list. -/
theorem Follows.single (h : Follows (fun ref place heap' => heap'.at? place = some ref) edit twin heap
    tree) :
    Follows Placed (do return [← edit]) (do return [← twin]) heap tree :=
  h.bind fun _ _ _ _ hshows hat => .done hshows (.cons hat .nil)

theorem Follows.single_of_found (h : Follows (Found heap) edit twin heap tree) :
    Follows Placed (do return [← edit]) (do return [← twin]) heap tree :=
  (h.imp fun _ _ _ hfound => hfound.2).single

/-- **An operation does on linked nodes what it does on the tree that they show.** Both fail for the
same cause, or the nodes of the one answer are at the paths of the other one. -/
theorem follows_perform (hshows : heap.Shows tree) (now : ℕ) (cwd : String) (operation : Operation) :
    Follows Placed (perform now cwd operation) (operation.perform now cwd) heap tree := by
  have hproper : ∀ text, ∀ name ∈ Path.read cwd (some text), Edit.isName name :=
    fun text => Path.isName_of_mem_read cwd (some text)
  cases operation with
  | create parent name kind => exact (follows_create hshows).single_of_found
  | mkdir path parents existOk => exact (follows_mkdir hshows (hproper path)).single_of_found
  | touch path => exact (follows_touch hshows (hproper path)).single_of_found
  | writeFile path text parents => exact (follows_writeFile hshows (hproper path)).single_of_found
  | upload files =>
    refine (follows_upload hshows fun file hfile => ?_).imp fun _ _ _ hanswered => hanswered.2
    obtain ⟨named, -, rfl⟩ := List.mem_map.1 hfile
    exact hproper named.1
  | remove path recursive =>
    exact (follows_remove hshows _).bind fun _ _ _ _ hshows' _ => .done hshows' .nil
  | copy source target => exact (follows_copy hshows (hproper source) (hproper target)).single
  | move source target => exact (follows_move hshows (hproper source) (hproper target)).single

end HeapEdit

namespace Heap

variable {heap : Heap} {tree : FileTree} {fuel : ℕ} {ref found : Ref} {node : Node} {seen path : Path}

/-! ### Requests one after the other -/

/-- The nodes that a request leaves behind, whether it fails or not. -/
def afterRequest (heap : Heap) (request : Request) : Heap :=
  ((HeapEdit.perform request.now request.cwd request.operation).run.run heap).2

/-- The nodes after requests one after the other. -/
def afterRequests (heap : Heap) (requests : List Request) : Heap := requests.foldl afterRequest heap

theorem shows_empty : empty.Shows FileTree.empty where
  linked :=
    { root_name := rfl
      root_parent := rfl
      root_isDir := rfl
      root_lt := Nat.zero_lt_one
      nodup := fun _ => List.nodup_nil
      child := fun _ _ _ h => absurd h List.not_mem_nil }
  looks path := by cases path <;> rfl

theorem Shows.afterRequest (h : heap.Shows tree) (request : Request) :
    (heap.afterRequest request).Shows (tree.afterRequest request) :=
  (HeapEdit.follows_perform h request.now request.cwd request.operation).shows_after

/-- **Requests leave linked nodes that show the tree.** -/
theorem Shows.afterRequests (h : heap.Shows tree) (requests : List Request) :
    (heap.afterRequests requests).Shows (tree.afterRequests requests) := by
  induction requests generalizing heap tree with
  | nil => exact h
  | cons request requests ih => exact ih (h.afterRequest request)

/-! ### The walk -/

/-- Walking along the keys finds exactly the node at the path. -/
theorem descend_eq_ok_iff : heap.descend ref path = .ok found ↔ heap.below path ref = some found := by
  induction path generalizing ref with
  | nil => simp [descend]
  | cons key rest ih =>
    rw [descend, below_cons]
    cases hchild : heap.child? ref key with
    | none => split_ifs <;> simp
    | some child => rw [if_pos (isDir_of_child? hchild)]; exact ih

theorem resolve_eq_ok_iff : heap.resolve path = .ok ref ↔ heap.at? path = some ref :=
  descend_eq_ok_iff

/-- A linked node and a node of a tree that have the same path and look alike. -/
structure Counterpart (heap : Heap) (listed : Path × Ref) (entry : Path × Node) : Prop where
  path_eq : listed.1 = entry.1
  at?_eq : heap.at? listed.1 = some listed.2
  looks : heap.Looks listed.2 entry.2

/-- **The walks from two nodes that look alike go side by side.** -/
theorem Fathomed.walk (h : heap.Fathomed fuel ref node) (hlinked : heap.Linked)
    (hat : heap.at? seen = some ref) :
    List.Forall₂ heap.Counterpart (heap.walkFrom fuel ref) (node.walk seen) := by
  induction fuel generalizing ref node seen with
  | zero => exact absurd (h.depth [] ref rfl) (Nat.lt_irrefl 0)
  | succ fuel ih =>
    have hfirst : heap.Counterpart (seen, ref) (seen, node) := ⟨rfl, hat, h.looks⟩
    rw [walkFrom, hlinked.pathOf_eq hat]
    cases node with
    | file stamps text =>
      rw [h.looks.children_of_file]
      exact .cons hfirst .nil
    | dir stamps inside =>
      rw [Node.walk, Entries.walk_eq_flatMap]
      refine .cons hfirst (List.rel_flatMap (h.children hlinked) fun child entry hchild => ?_)
      have hplace := at?_concat_of_child? hat hchild.found
      rw [hchild.key] at hplace
      exact ih hchild.fathomed hplace

theorem Shows.toList (h : heap.Shows tree) :
    List.Forall₂ heap.Counterpart heap.toList tree.toList :=
  (h.linked.fathomed heap.at?_nil h.looks).walk h.linked heap.at?_nil

/-- The nodes are listed with the paths that the tree lists. -/
theorem Shows.map_fst_toList (h : heap.Shows tree) :
    heap.toList.map Prod.fst = tree.toList.map Prod.fst := by
  rw [← List.forall₂_eq_eq_eq, List.forall₂_map_left_iff, List.forall₂_map_right_iff]
  exact h.toList.imp fun _ _ hpair => hpair.path_eq

/-- The walk from the root lists exactly what paths lead to. -/
theorem Shows.mem_toList_iff (h : heap.Shows tree) (hwell : tree.WellNamed) :
    (path, ref) ∈ heap.toList ↔ heap.at? path = some ref := by
  have hsound : ∀ listed ∈ heap.toList, heap.at? listed.1 = some listed.2 :=
    ((List.forall₂_and_left ..).1 (h.toList.imp fun _ _ hpair => ⟨hpair.at?_eq, hpair⟩)).1
  constructor
  · exact hsound (path, ref)
  · intro hat
    obtain ⟨node, hnode, -⟩ := h.looks_of_at? hat
    have hpath : path ∈ heap.toList.map Prod.fst := by
      rw [h.map_fst_toList]
      exact List.mem_map_of_mem (hwell.mem_toList_iff.2 hnode)
    obtain ⟨⟨_, other⟩, hlisted, rfl⟩ := List.mem_map.1 hpath
    rwa [Option.some.inj (hat.symm.trans (hsound _ hlisted))]

/-! ### Nodes and paths -/

/-- How linked nodes and their paths belong together. -/
structure Addressed (heap : Heap) : Prop where
  /-- The root is a directory without a name that is in no directory. -/
  root : heap.isDir Heap.root = true ∧ (heap.cell Heap.root).name = "" ∧
    (heap.cell Heap.root).parent = none
  /-- The children of a directory have different names. -/
  siblings : ∀ dir, ((heap.children dir).map fun child => (heap.cell child.2).name).Nodup
  /-- A child is found under its own name, which is not empty, `.` or `..` and holds no slash, and
  refers back to its directory. -/
  children : ∀ dir, ∀ child ∈ heap.children dir,
    (heap.cell child.2).name = child.1 ∧ heap.child? dir child.1 = some child.2 ∧
      (heap.cell child.2).parent = some dir ∧
        child.1 ≠ "" ∧ child.1 ≠ "." ∧ child.1 ≠ ".." ∧ '/' ∉ child.1.toList
  /-- The walk from the root, as it is asked for in any working directory, lists the nodes. -/
  walk : ∀ cwd, heap.walk (Path.read cwd (some "/")) = .ok heap.toList
  /-- The nodes are those that are found along the keys from the root. -/
  listed : ∀ path ref, (path, ref) ∈ heap.toList ↔ heap.resolve path = .ok ref
  /-- Each node climbs the path that it is listed with, however much fuel there is for more. -/
  climb : ∀ entry ∈ heap.toList, ∀ fuel, heap.next ≤ fuel → heap.climb fuel entry.2 = entry.1
  /-- The path of a node, read in any working directory, leads to the node. -/
  resolve : ∀ entry ∈ heap.toList, ∀ cwd,
    heap.resolve (Path.read cwd (some (heap.pathOf entry.2).render)) = .ok entry.2
  /-- No path is listed twice. -/
  distinct : (heap.toList.map fun entry => entry.1.render).Nodup
  /-- The path of a node is written as it is read. -/
  normal : ∀ entry ∈ heap.toList, ∀ cwd,
    (Path.read cwd (some entry.1.render)).render = entry.1.render
  /-- There is something at a path exactly if the path, once read, is that of a node. -/
  holds : ∀ cwd text, heap.holds (Path.read cwd text) = true ↔
    (Path.read cwd text).render ∈ heap.toList.map fun entry => entry.1.render

/-- **Nodes that show a well-named tree have their paths.** -/
theorem Shows.addressed (h : heap.Shows tree) (hwell : tree.WellNamed) : heap.Addressed := by
  have hat : ∀ entry ∈ heap.toList, heap.at? entry.1 = some entry.2 := fun _ hentry =>
    (h.mem_toList_iff hwell).1 hentry
  have hproper : ∀ entry ∈ heap.toList, ∀ name ∈ entry.1, Edit.isName name := fun entry hentry =>
    h.linked.isName_of_below (hat entry hentry)
  have hrendered : (heap.toList.map fun entry => entry.1.render) =
      tree.toList.map fun entry => entry.1.render := by
    have hpaths := congrArg (List.map Path.render) h.map_fst_toList
    rwa [List.map_map, List.map_map] at hpaths
  have hchild : ∀ dir, ∀ child ∈ heap.children dir, (heap.cell child.2).name = child.1 :=
    fun dir child hchild => (h.linked.child dir child.1 child.2 hchild).1
  have htree := hwell.addressed
  refine ⟨⟨h.linked.root_isDir, h.linked.root_name, h.linked.root_parent⟩, ?_, ?_, ?_, ?_, ?_, ?_, ?_,
    ?_, ?_⟩
  · intro dir
    rw [List.map_congr_left (hchild dir)]
    exact h.linked.nodup dir
  · intro dir child hmem
    obtain ⟨hcalled, hparent, hname, -⟩ := h.linked.child dir child.1 child.2 hmem
    exact ⟨hcalled, h.linked.child?_eq_some_iff.2 hmem, hparent, Path.isName_iff.1 hname⟩
  · intro cwd
    rw [Path.read_slash]
    rfl
  · intro path ref
    rw [h.mem_toList_iff hwell, resolve_eq_ok_iff]
  · intro entry hentry fuel hfuel
    have hlength := h.linked.length_lt (hat entry hentry)
    exact h.linked.climb_eq (hlength.le.trans hfuel) (hat entry hentry)
  · intro entry hentry cwd
    rw [h.linked.pathOf_eq (hat entry hentry), Path.read_render (hproper entry hentry)]
    exact resolve_eq_ok_iff.2 (hat entry hentry)
  · rw [hrendered]
    exact htree.distinct
  · intro entry hentry cwd
    rw [Path.read_render (hproper entry hentry)]
  · intro cwd text
    rw [h.holds_eq, hrendered]
    exact htree.holds cwd text

/-- **Linked nodes and their paths belong together**, whatever was asked since there was nothing but
the root, and whether it succeeded or failed. The nodes show the tree of which the same was asked. -/
theorem nodes_have_their_paths (requests : List Request) :
    (empty.afterRequests requests).Addressed ∧
      (empty.afterRequests requests).Shows (FileTree.empty.afterRequests requests) := by
  have hempty : FileTree.empty.WellNamed := trivial
  have hshows := shows_empty.afterRequests requests
  exact ⟨hshows.addressed (hempty.afterRequests requests), hshows⟩

/-- A directory that was made with the one above it and then moved out under another name, a copy of
it, and two requests that fail. The file that was moved keeps its number. -/
example :
    let requests : List Request :=
      [⟨1, "/", .mkdir "a/b" true false⟩, ⟨2, "/a", .writeFile "./b//x" "text" false⟩,
        ⟨3, "/", .create "/a" ".." "dir"⟩, ⟨4, "/a", .move "b" "../c"⟩,
        ⟨5, "/", .copy "c" "a"⟩, ⟨6, "/", .remove "a/b" true⟩]
    (empty.afterRequests requests).toList.map (fun entry => (entry.1.render, entry.2)) =
      [("/", 0), ("/a", 1), ("/a/c", 4), ("/a/c/x", 5), ("/c", 2), ("/c/x", 3)] := by
  decide +kernel

end Heap
end Shellbox
