import Mathlib.Data.List.Forall2
import Shellbox.FileTree.HeapEdit
import Shellbox.Proofs.Growth
import Shellbox.Proofs.HeapPaths
/-!
# What linked nodes look like

A linked node looks like a node of a tree if every path below the one shows what the same path below
the other shows: the stamps, and a text or the names of children (`Heap.Looks`). A heap shows a tree
if its links agree with each other and its root looks like that of the tree (`Heap.Shows`).

A question that is asked of both gets the same answer. The walks from the root go side by side
(`Heap.Looks.descend_cases`): a node that is met on the way has the path that was walked, since it
climbs it, so even the faults are the same, which name the paths of nodes.
-/

namespace Shellbox
namespace Heap

/-- What is seen of a linked node without following its links. -/
def surface (heap : Heap) (ref : Ref) : Stamps × Content × Option (List String) :=
  match (heap.cell ref).held with
  | .file text => ((heap.cell ref).stamps, .file text, none)
  | .dir children => ((heap.cell ref).stamps, .dir, some (Keyed.keys children))

/-- A linked node, with all below it, looks like a node of a tree. -/
def Looks (heap : Heap) (ref : Ref) (node : Node) : Prop :=
  ∀ path, (heap.below path ref).map heap.surface = (node.at? path).map Node.surface

/-- The nodes below the root, well linked, look like a tree. -/
structure Shows (heap : Heap) (tree : FileTree) : Prop where
  linked : heap.Linked
  looks : heap.Looks root tree.root

variable {heap : Heap} {ref : Ref} {node : Node} {tree : FileTree} {stamps : Stamps}
  {inside : Entries} {text : String} {seen path : Path}

theorem surface_file (h : (heap.cell ref).held = .file text) :
    heap.surface ref = ((heap.cell ref).stamps, .file text, none) := by
  rw [surface, h]

theorem surface_dir {children : List (String × Ref)} (h : (heap.cell ref).held = .dir children) :
    heap.surface ref = ((heap.cell ref).stamps, .dir, some (Keyed.keys children)) := by
  rw [surface, h]

/-- A node that is changed elsewhere shows what it showed. -/
theorem surface_congr {heap' : Heap} (hheld : (heap'.cell ref).held = (heap.cell ref).held)
    (hstamps : (heap'.cell ref).stamps = (heap.cell ref).stamps) :
    heap'.surface ref = heap.surface ref := by
  rw [surface, surface, hheld, hstamps]

namespace Looks

/-- Files look like files and directories like directories with the same names in them. -/
theorem cases (h : heap.Looks ref node) :
    (∃ text, (heap.cell ref).held = .file text ∧ node = .file (heap.cell ref).stamps text) ∨
      ∃ children inside, (heap.cell ref).held = .dir children ∧
        node = .dir (heap.cell ref).stamps inside ∧ inside.names = Keyed.keys children := by
  have hsurface : heap.surface ref = node.surface := Option.some.inj (h [])
  cases hheld : (heap.cell ref).held with
  | file text =>
    rw [surface_file hheld] at hsurface
    cases node with
    | file stamps text' =>
      cases hsurface
      exact Or.inl ⟨_, rfl, rfl⟩
    | dir stamps inside => cases hsurface
  | dir children =>
    rw [surface_dir hheld] at hsurface
    cases node with
    | file stamps text' => cases hsurface
    | dir stamps inside =>
      simp only [Node.surface, Node.listed?, Prod.mk.injEq, Option.some.injEq] at hsurface
      obtain ⟨hstamps, -, hnames⟩ := hsurface
      exact Or.inr ⟨children, inside, rfl, by rw [hstamps]; rfl, hnames.symm⟩

theorem isDir_eq (h : heap.Looks ref node) : heap.isDir ref = node.isDir := by
  rw [isDir]
  rcases h.cases with ⟨text, hheld, rfl⟩ | ⟨children, inside, hheld, rfl, -⟩ <;> rw [hheld] <;> rfl

/-- What a directory looks like is known from its children. -/
theorem names_eq (h : heap.Looks ref (.dir stamps inside)) :
    inside.names = Keyed.keys (heap.children ref) := by
  rw [children]
  rcases h.cases with ⟨text, -, hnode⟩ | ⟨children, inside', hheld, hnode, hnames⟩
  · cases hnode
  · cases hnode
    rw [hheld, hnames]

theorem isEmpty_eq (h : heap.Looks ref (.dir stamps inside)) :
    (heap.children ref).isEmpty = inside.isEmpty := by
  rw [Bool.eq_iff_iff, Entries.isEmpty_iff, h.names_eq, List.isEmpty_iff, Keyed.keys,
    List.map_eq_nil_iff]

theorem isDir_of_dir (h : heap.Looks ref (.dir stamps inside)) : heap.isDir ref = true := h.isDir_eq

theorem children_of_file (h : heap.Looks ref (.file stamps text)) : heap.children ref = [] := by
  rw [children]
  rcases h.cases with ⟨text, hheld, -⟩ | ⟨children, inside', -, hnode, -⟩
  · rw [hheld]
  · cases hnode

/-- Both sides have a child of a name, and the children look alike, or neither has one. -/
theorem child_cases (h : heap.Looks ref (.dir stamps inside)) (name : String) :
    (heap.child? ref name = none ∧ inside.find? name = none) ∨
      ∃ child node, heap.child? ref name = some child ∧ inside.find? name = some node ∧
        heap.Looks child node := by
  have hname := h [name]
  rw [below_singleton, Node.at?_cons_dir] at hname
  cases hchild : heap.child? ref name with
  | none =>
    rw [hchild] at hname
    cases hfind : inside.find? name with
    | none => exact Or.inl ⟨rfl, rfl⟩
    | some node => rw [hfind] at hname; cases hname
  | some child =>
    rw [hchild] at hname
    cases hfind : inside.find? name with
    | none => rw [hfind] at hname; cases hname
    | some node =>
      refine Or.inr ⟨child, node, rfl, rfl, fun path => ?_⟩
      have hpath := h (name :: path)
      rwa [below_cons, Node.at?_cons_dir, hchild, hfind] at hpath

theorem find?_eq_none (h : heap.Looks ref (.dir stamps inside)) {name : String}
    (hchild : heap.child? ref name = none) : inside.find? name = none := by
  rcases h.child_cases name with ⟨-, hfind⟩ | ⟨child, node, hsome, -⟩
  · exact hfind
  · rw [hchild] at hsome
    cases hsome

/-- The children of two directories that look alike correspond to each other in their order. -/
theorem forall₂_children (h : heap.Looks ref (.dir stamps inside)) (hlinked : heap.Linked) :
    List.Forall₂ (fun child entry => child.1 = entry.1 ∧ heap.Looks child.2 entry.2)
      (heap.children ref) inside.toList := by
  have hnodup : inside.names.Nodup := h.names_eq ▸ hlinked.nodup ref
  have hkeys : List.Forall₂ (fun child entry => child.1 = entry.1) (heap.children ref)
      inside.toList := by
    have hnames := List.forall₂_eq_eq_eq.symm ▸ h.names_eq.symm
    rwa [Keyed.keys, Entries.names, List.forall₂_map_left_iff, List.forall₂_map_right_iff] at hnames
  refine List.forall₂_iff_zip.2 ⟨hkeys.length_eq, fun {child entry} hzip => ?_⟩
  have hkey : child.1 = entry.1 := List.forall₂_zip hkeys hzip
  obtain ⟨hchild, hentry⟩ := List.of_mem_zip hzip
  have hsome : heap.child? ref child.1 = some child.2 := hlinked.child?_eq_some_iff.2 hchild
  have hfind := Entries.find?_of_mem_of_nodup hnodup hentry
  refine ⟨hkey, ?_⟩
  rw [hkey] at hsome
  rcases h.child_cases entry.1 with ⟨-, hnone⟩ | ⟨found, node, hfound, hnode, hlooks⟩
  · rw [hnone] at hfind
    cases hfind
  · rw [hsome] at hfound
    rw [hfind] at hnode
    cases hfound
    cases hnode
    exact hlooks

/-- The walks from two nodes that look alike end at nodes that look alike, or at the same
obstacle. -/
theorem descend_cases (h : heap.Looks ref node) (hlinked : heap.Linked)
    (hat : heap.at? seen = some ref) (path : Path) :
    (∃ found last, heap.descend ref path = .ok found ∧ node.descend seen path = .ok last ∧
        heap.at? (seen ++ path) = some found ∧ heap.Looks found last) ∨
      ∃ fault, heap.descend ref path = .error fault ∧ node.descend seen path = .error fault := by
  induction path generalizing ref node seen with
  | nil => exact Or.inl ⟨ref, node, rfl, rfl, by rwa [List.append_nil], h⟩
  | cons name rest ih =>
    rw [descend, hlinked.pathOf_eq hat, h.isDir_eq]
    cases node with
    | file stamps text => exact Or.inr ⟨_, rfl, rfl⟩
    | dir stamps inside =>
      rw [Node.descend, if_pos (show (Node.dir stamps inside).isDir = true from rfl)]
      rcases h.child_cases name with ⟨hchild, hfind⟩ | ⟨child, node, hchild, hfind, hlooks⟩
      · rw [hchild, hfind]
        exact Or.inr ⟨_, rfl, rfl⟩
      · rw [hchild, hfind]
        have hrest := ih hlooks (at?_concat_of_child? hat hchild)
        rwa [List.append_assoc, List.singleton_append] at hrest

/-- The obstacle to writing a file is the same. -/
theorem uploadObstacle_eq (h : heap.Looks ref node) (hlinked : heap.Linked)
    (hat : heap.at? seen = some ref) (path : Path) :
    HeapEdit.uploadObstacle heap ref path = Edit.uploadObstacle seen path node := by
  induction path generalizing ref node seen with
  | nil =>
    rw [HeapEdit.uploadObstacle, hlinked.pathOf_eq hat, h.isDir_eq]
    cases node <;> rfl
  | cons name rest ih =>
    rw [HeapEdit.uploadObstacle, hlinked.pathOf_eq hat, h.isDir_eq]
    cases node with
    | file stamps text => rfl
    | dir stamps inside =>
      rw [Edit.uploadObstacle, if_pos (show (Node.dir stamps inside).isDir = true from rfl)]
      rcases h.child_cases name with ⟨hchild, hfind⟩ | ⟨child, node, hchild, hfind, hlooks⟩
      · rw [hchild, hfind]
      · rw [hchild, hfind]
        exact ih hlooks (at?_concat_of_child? hat hchild)

end Looks

/-! ### Depth -/

/-- A node looks like a node of a tree, and no way down from it is as long as the fuel. -/
structure Fathomed (heap : Heap) (fuel : ℕ) (ref : Ref) (node : Node) : Prop where
  lt : ref < heap.next
  looks : heap.Looks ref node
  depth : ∀ path found, heap.below path ref = some found → path.length < fuel

/-- A child of a node has the name of a child in the tree, and there is fuel for it. -/
structure FathomedChild (heap : Heap) (fuel : ℕ) (ref : Ref) (child : String × Ref)
    (entry : String × Node) : Prop where
  found : heap.child? ref child.1 = some child.2
  key : child.1 = entry.1
  fathomed : heap.Fathomed fuel child.2 entry.2

/-- A step down takes one unit of fuel. -/
theorem Fathomed.children {fuel : ℕ} (h : heap.Fathomed (fuel + 1) ref (.dir stamps inside))
    (hlinked : heap.Linked) :
    List.Forall₂ (heap.FathomedChild fuel ref) (heap.children ref) inside.toList := by
  have hchildren := (List.forall₂_and_left ..).2
    ⟨fun child hchild => hlinked.child?_eq_some_iff.2 hchild, h.looks.forall₂_children hlinked⟩
  refine hchildren.imp fun child entry ⟨hfound, hkey, hlooks⟩ => ?_
  refine ⟨hfound, hkey, (hlinked.of_child? hfound).2.2.2, hlooks, fun path found hpath => ?_⟩
  refine Nat.lt_of_succ_lt_succ (h.depth (child.1 :: path) found ?_)
  rw [below_cons, hfound, Option.bind_some, hpath]

/-- There are more nodes than a way down from a node that a path leads to is long. -/
theorem Linked.fathomed (h : heap.Linked) (hat : heap.at? seen = some ref)
    (hlooks : heap.Looks ref node) : heap.Fathomed heap.next ref node where
  lt := h.below_lt h.root_lt hat
  looks := hlooks
  depth path found hfound := by
    have hwhole : heap.at? (seen ++ path) = some found := by
      rw [at?_append, hat, Option.bind_some, hfound]
    have hlength := h.length_lt hwhole
    rw [List.length_append] at hlength
    exact (Nat.le_add_left ..).trans_lt hlength

namespace Shows

/-- A path leads to nodes that look alike, or to none on both sides. -/
theorem at?_cases (h : heap.Shows tree) (path : Path) :
    (heap.at? path = none ∧ tree.at? path = none) ∨
      ∃ ref node, heap.at? path = some ref ∧ tree.at? path = some node ∧ heap.Looks ref node := by
  have hpath : (heap.at? path).map heap.surface = (tree.at? path).map Node.surface := h.looks path
  cases href : heap.at? path with
  | none =>
    cases hnode : tree.at? path with
    | none => exact Or.inl ⟨rfl, rfl⟩
    | some node => rw [href, hnode] at hpath; cases hpath
  | some ref =>
    cases hnode : tree.at? path with
    | none => rw [href, hnode] at hpath; cases hpath
    | some node =>
      refine Or.inr ⟨ref, node, rfl, rfl, fun rest => ?_⟩
      have hrest : (heap.at? (path ++ rest)).map heap.surface =
          (tree.at? (path ++ rest)).map Node.surface := h.looks (path ++ rest)
      rwa [at?_append, href, FileTree.at?_eq_root, Node.at?_append, ← FileTree.at?_eq_root,
        hnode] at hrest

/-- What a node of the heap looks like is what its path holds. -/
theorem looks_of_at? (h : heap.Shows tree) (hat : heap.at? path = some ref) :
    ∃ node, tree.at? path = some node ∧ heap.Looks ref node := by
  rcases h.at?_cases path with ⟨hnone, -⟩ | ⟨found, node, hfound, hnode, hlooks⟩
  · rw [hnone] at hat
    cases hat
  · rw [hat] at hfound
    obtain rfl := Option.some.inj hfound
    exact ⟨node, hnode, hlooks⟩

/-- A directory of the heap looks like the one that is at its path. -/
theorem dir_of_at? (h : heap.Shows tree) (hat : heap.at? path = some ref)
    (hdir : heap.isDir ref = true) :
    ∃ stamps inside, tree.at? path = some (.dir stamps inside) ∧
      heap.Looks ref (.dir stamps inside) := by
  obtain ⟨node, hnode, hlooks⟩ := h.looks_of_at? hat
  rw [hlooks.isDir_eq] at hdir
  cases node with
  | file stamps text => cases hdir
  | dir stamps inside => exact ⟨stamps, inside, hnode, hlooks⟩

/-- Walking a path from the root comes to nodes that look alike, or to the same obstacle. -/
theorem resolve_cases (h : heap.Shows tree) (path : Path) :
    (∃ ref node, heap.resolve path = .ok ref ∧ tree.resolve path = .ok node ∧
        heap.at? path = some ref ∧ tree.at? path = some node ∧ heap.Looks ref node) ∨
      ∃ fault, heap.resolve path = .error fault ∧ tree.resolve path = .error fault := by
  rcases h.looks.descend_cases h.linked heap.at?_nil path with
    ⟨ref, node, href, hnode, hat, hlooks⟩ | hfault
  · exact Or.inl ⟨ref, node, href, hnode, hat, FileTree.resolve_eq_ok_iff.1 hnode, hlooks⟩
  · exact Or.inr hfault

theorem holds_eq (h : heap.Shows tree) (path : Path) : heap.holds path = tree.holds path := by
  rw [holds, FileTree.holds]
  rcases h.resolve_cases path with ⟨ref, node, href, hnode, -⟩ | ⟨fault, href, hnode⟩ <;>
    rw [href, hnode]

theorem hasDir_eq (h : heap.Shows tree) (path : Path) : heap.hasDir path = tree.hasDir path := by
  rw [hasDir, FileTree.hasDir]
  rcases h.resolve_cases path with ⟨ref, node, href, hnode, -, -, hlooks⟩ | ⟨fault, href, hnode⟩
  · rw [href, hnode]
    refine hlooks.isDir_eq.trans ?_
    cases node <;> rfl
  · rw [href, hnode]

/-- Asking for the directory at a path comes to directories that look alike, or to the same
obstacle. -/
theorem directory_cases (h : heap.Shows tree) (path : Path) :
    (∃ dir stamps inside, heap.directory path = .ok dir ∧ tree.directory path = .ok inside ∧
        heap.at? path = some dir ∧ tree.at? path = some (.dir stamps inside) ∧
          heap.Looks dir (.dir stamps inside)) ∨
      ∃ fault, heap.directory path = .error fault ∧ tree.directory path = .error fault := by
  rw [directory, FileTree.directory]
  rcases h.resolve_cases path with ⟨ref, node, href, hnode, hat, htree, hlooks⟩ | ⟨fault, href, hnode⟩
  · rw [href, hnode]
    have hdir := hlooks.isDir_eq
    cases node with
    | file stamps text =>
      refine Or.inr ⟨.notADirectory path, ?_, rfl⟩
      change (if heap.isDir ref then _ else _) = _
      rw [hdir, h.linked.pathOf_eq hat]
      rfl
    | dir stamps inside =>
      refine Or.inl ⟨ref, stamps, inside, ?_, rfl, hat, htree, hlooks⟩
      change (if heap.isDir ref then _ else _) = _
      rw [hdir]
      rfl
  · rw [href, hnode]
    exact Or.inr ⟨fault, rfl, rfl⟩

end Shows

end Heap
end Shellbox
