import Shellbox.Proofs.PathText
import Shellbox.Proofs.Transfer
import Shellbox.Proofs.Upload
/-!
# Trees with proper names

A tree is well named if in every directory the children have different names, and each name is one
that a path text can mean: it is not empty, not `.` or `..`, and holds no slash
(`Entries.WellNamed`).

Names come into a tree in few places, and each sees to it that the tree stays well named. `create`
checks the name it is given. All other new names are components of paths, which are proper when the
path was read from a text (`Path.isName_of_mem_read`), or names that the tree has already. A child
is added only under a name that is free (`Edit.preserves_addChild`). So every operation leaves a
well-named tree well named, whether it fails or not (`Operation.preserves_wellNamed`).
-/

namespace Shellbox

/-! ### Children -/

namespace Entries

/-- The children have proper and different names, and so it is in every directory below. -/
def WellNamed : Entries → Prop
  | nil => True
  | file name _ _ rest => Edit.isName name ∧ name ∉ rest.names ∧ rest.WellNamed
  | dir name _ inside rest =>
    Edit.isName name ∧ name ∉ rest.names ∧ inside.WellNamed ∧ rest.WellNamed

end Entries

/-- In the node and in every directory below, the children have proper and different names. -/
def Node.WellNamed : Node → Prop
  | .file .. => True
  | .dir _ inside => inside.WellNamed

namespace Entries

variable {name other : String} {node : Node} {entries rest : Entries}

theorem wellNamed_cons :
    (cons name node rest).WellNamed ↔
      Edit.isName name ∧ name ∉ rest.names ∧ node.WellNamed ∧ rest.WellNamed := by
  cases node with
  | file stamps text => simp [cons, WellNamed, Node.WellNamed]
  | dir stamps inside => exact Iff.rfl

theorem find?_eq_none_iff : entries.find? name = none ↔ name ∉ entries.names := by
  induction entries using consInduction with
  | nil => simp [find?, names, toList]
  | cons first child rest ih =>
    rw [find?_cons, names_cons, List.mem_cons]
    by_cases hname : first = name
    · simp [hname]
    · rw [if_neg hname, ih]
      simp [Ne.symm hname]

/-- Where the names are different, each child is the one that is found under its name. -/
theorem find?_of_mem_of_nodup {child : String × Node} (h : entries.names.Nodup)
    (hmem : child ∈ entries.toList) : entries.find? child.1 = some child.2 := by
  induction entries using consInduction with
  | nil => exact absurd hmem List.not_mem_nil
  | cons first node rest ih =>
    rw [names_cons, List.nodup_cons] at h
    rw [toList_cons] at hmem
    rw [find?_cons]
    rcases List.mem_cons.1 hmem with rfl | hmem
    · rw [if_pos rfl]
    · have hne : first ≠ child.1 := fun heq => h.1 (heq ▸ List.mem_map_of_mem hmem)
      rw [if_neg hne, ih h.2 hmem]

namespace WellNamed

/-- What a look-up finds in well-named entries is well named and has a proper name. -/
theorem of_find? (h : entries.WellNamed) (hfind : entries.find? name = some node) :
    Edit.isName name ∧ node.WellNamed := by
  induction entries using consInduction with
  | nil => cases hfind
  | cons first child rest ih =>
    obtain ⟨hfirst, -, hchild, hrest⟩ := wellNamed_cons.1 h
    rw [find?_cons] at hfind
    split_ifs at hfind with hname
    · cases hfind
      exact ⟨hname ▸ hfirst, hchild⟩
    · exact ih hrest hfind

/-- A child may be added under a proper name that is free. -/
theorem push (h : entries.WellNamed) (hname : Edit.isName name) (hfree : entries.find? name = none)
    (hnode : node.WellNamed) : (entries.push name node).WellNamed := by
  induction entries using consInduction with
  | nil => exact wellNamed_cons.2 ⟨hname, List.not_mem_nil, hnode, trivial⟩
  | cons first child rest ih =>
    obtain ⟨hfirst, hnew, hchild, hrest⟩ := wellNamed_cons.1 h
    rw [find?_cons] at hfree
    split_ifs at hfree with hne
    rw [push_cons, wellNamed_cons, names_push, List.mem_append, List.mem_singleton]
    exact ⟨hfirst, not_or.2 ⟨hnew, hne⟩, hchild, ih hrest hfree⟩

theorem erase (h : entries.WellNamed) (name : String) : (entries.erase name).WellNamed := by
  induction entries using consInduction with
  | nil => exact trivial
  | cons first child rest ih =>
    obtain ⟨hfirst, hnew, hchild, hrest⟩ := wellNamed_cons.1 h
    rw [erase_cons]
    split_ifs
    · exact hrest
    · refine wellNamed_cons.2 ⟨hfirst, fun hmem => hnew ?_, hchild, ih hrest⟩
      rw [names_erase] at hmem
      exact List.mem_of_mem_erase hmem

/-- The node in the place of a child takes over its name. -/
theorem replace (h : entries.WellNamed) (hnode : node.WellNamed) (name : String) :
    (entries.replace name node).WellNamed := by
  induction entries using consInduction with
  | nil => exact trivial
  | cons first child rest ih =>
    obtain ⟨hfirst, hnew, hchild, hrest⟩ := wellNamed_cons.1 h
    rw [replace_cons]
    split_ifs
    · exact wellNamed_cons.2 ⟨hfirst, hnew, hnode, hrest⟩
    · exact wellNamed_cons.2 ⟨hfirst, by rwa [names_replace], hchild, ih hrest⟩

theorem renewed (h : entries.WellNamed) (now : Nat) : (entries.renewed now).WellNamed := by
  induction entries with
  | nil => exact trivial
  | file name stamps text rest ih =>
    obtain ⟨hname, hnew, hrest⟩ := h
    exact ⟨hname, by rwa [names_renewed], ih hrest⟩
  | dir name stamps inside rest ihInside ih =>
    obtain ⟨hname, hnew, hinside, hrest⟩ := h
    exact ⟨hname, by rwa [names_renewed], ihInside hinside, ih hrest⟩

/-- The names of the children are different. -/
theorem nodup_names (h : entries.WellNamed) : entries.names.Nodup := by
  induction entries using consInduction with
  | nil => exact List.nodup_nil
  | cons first child rest ih =>
    obtain ⟨-, hnew, -, hrest⟩ := wellNamed_cons.1 h
    rw [names_cons]
    exact List.nodup_cons.2 ⟨hnew, ih hrest⟩

/-- Each child is the one that is found under its name. -/
theorem find?_of_mem {child : String × Node} (h : entries.WellNamed)
    (hmem : child ∈ entries.toList) : entries.find? child.1 = some child.2 :=
  find?_of_mem_of_nodup h.nodup_names hmem

end WellNamed

end Entries

/-! ### Nodes -/

namespace Node.WellNamed

variable {now : Nat} {make : Bool} {node found : Node} {path seen : Path}

theorem renewed (h : node.WellNamed) (now : Nat) : (node.renewed now).WellNamed := by
  cases node with
  | file stamps text => exact trivial
  | dir stamps inside => exact Entries.WellNamed.renewed h now

theorem touched (h : node.WellNamed) (now : Nat) : (node.touched now).WellNamed := by
  cases node <;> exact h

theorem withText (h : node.WellNamed) (now : Nat) (text : String) :
    (node.withText now text).WellNamed := by
  cases node <;> exact h

/-- What is at a path below a well-named node is well named, and the path is one of proper names. -/
theorem of_at? (h : node.WellNamed) (hat : node.at? path = some found) :
    (∀ name ∈ path, Edit.isName name) ∧ found.WellNamed := by
  induction path generalizing node with
  | nil =>
    cases hat
    exact ⟨fun _ hmem => absurd hmem List.not_mem_nil, h⟩
  | cons name rest ih =>
    cases node with
    | file stamps text => cases hat
    | dir stamps inside =>
      obtain ⟨child, hfind, hrest⟩ := Option.bind_eq_some_iff.1 hat
      obtain ⟨hname, hchild⟩ := Entries.WellNamed.of_find? h hfind
      obtain ⟨hnames, hfound⟩ := ih hchild hrest
      exact ⟨List.forall_mem_cons.2 ⟨hname, hnames⟩, hfound⟩

/-- A change of the node at a path, if it leaves that node well named. -/
theorem amend {change : Node → Node} (h : node.WellNamed)
    (hchange : ∀ found, node.at? path = some found → (change found).WellNamed) :
    (node.amend change path).WellNamed := by
  induction path generalizing node with
  | nil => cases node <;> exact hchange _ rfl
  | cons name rest ih =>
    cases node with
    | file stamps text => exact trivial
    | dir stamps inside =>
      rw [Node.amend]
      split
      · exact h
      · next child hfind =>
        obtain ⟨-, hchild⟩ := Entries.WellNamed.of_find? h hfind
        refine Entries.WellNamed.replace h (ih hchild fun found hat => hchange found ?_) name
        rw [at?_cons_dir, hfind]
        exact hat

/-- A walk to a directory makes directories with names of the path. -/
theorem openDir (h : node.WellNamed) (hpath : ∀ name ∈ path, Edit.isName name) :
    (node.openDir now make seen path).2.WellNamed := by
  induction path generalizing node seen with
  | nil => cases node <;> exact h
  | cons name rest ih =>
    obtain ⟨hname, hrest⟩ := List.forall_mem_cons.1 hpath
    cases node with
    | file stamps text => rw [openDir_file]; exact trivial
    | dir stamps inside =>
      cases hfind : inside.find? name with
      | some child =>
        obtain ⟨-, hchild⟩ := Entries.WellNamed.of_find? h hfind
        rw [openDir_cons_some hfind]
        exact Entries.WellNamed.replace h (ih hchild hrest) name
      | none =>
        cases make with
        | false => rw [openDir_cons_none hfind]; exact h
        | true =>
          have hfresh : (Node.dir (.fresh now) .nil).WellNamed := trivial
          rw [openDir_cons_none_make hfind]
          exact Entries.WellNamed.push h hname hfind (ih hfresh hrest)

end Node.WellNamed

/-! ### Edits -/

/-- In the root directory and in every directory below, the children have proper and different
names. -/
def FileTree.WellNamed (tree : FileTree) : Prop := tree.inside.WellNamed

namespace FileTree.WellNamed

variable {tree : FileTree} {path : Path} {found : Node}

theorem root (h : tree.WellNamed) : tree.root.WellNamed := h

theorem of_at? (h : tree.WellNamed) (hat : tree.at? path = some found) :
    (∀ name ∈ path, Edit.isName name) ∧ found.WellNamed := h.root.of_at? hat

theorem amend {change : Node → Node} (h : tree.WellNamed)
    (hchange : ∀ found, tree.at? path = some found → (change found).WellNamed) :
    (tree.amend path change).WellNamed := by
  have hroot : (tree.root.amend change path).WellNamed := h.root.amend hchange
  rw [FileTree.amend]
  cases hamend : tree.root.amend change path with
  | file stamps text => exact h
  | dir stamps inside => rw [hamend] at hroot; exact hroot

end FileTree.WellNamed

namespace Edit

variable {now : Nat} {make parents existOk recursive : Bool} {parent path source target : Path}
  {name kind text : String} {node : Node}

theorem preserves_openDir (hpath : ∀ name ∈ path, isName name) :
    Preserves FileTree.WellNamed (openDir now make path) := by
  intro tree h
  have hroot : ((openDir now make path).after tree).root.WellNamed := by
    rw [root_after_openDir]
    exact h.root.openDir hpath
  exact hroot

/-- **A child is only added under a name that is free.** -/
theorem preserves_addChild (hname : isName name) (hnode : node.WellNamed) :
    Preserves FileTree.WellNamed (addChild now parent name node) := by
  refine Preserves.of_atomic Atomic.addChild fun tree _ hadd h => ?_
  obtain ⟨-, hfree⟩ := outcome_addChild_eq_ok_iff.1 hadd
  rw [after_addChild_of_ok hadd]
  refine h.amend fun found hat => ?_
  obtain ⟨-, hfound⟩ := h.of_at? hat
  cases found with
  | file stamps text => exact trivial
  | dir stamps inside =>
    rw [FileTree.content?_child (FileTree.directory_eq_ok_iff.2 ⟨stamps, hat⟩),
      Option.map_eq_none_iff] at hfree
    exact Entries.WellNamed.push hfound hname hfree hnode

theorem preserves_removeChild : Preserves FileTree.WellNamed (removeChild now parent name) := by
  refine Preserves.of_atomic Atomic.removeChild fun tree _ hremove h => ?_
  rw [after_removeChild_of_ok hremove]
  refine h.amend fun found hat => ?_
  obtain ⟨-, hfound⟩ := h.of_at? hat
  cases found with
  | file stamps text => exact trivial
  | dir stamps inside => exact Entries.WellNamed.erase hfound name

/-- A change of a node that leaves its children alone. -/
theorem preserves_amend {change : Node → Node}
    (hchange : ∀ node : Node, node.WellNamed → (change node).WellNamed) :
    Preserves FileTree.WellNamed (amend path change) := by
  intro tree h
  rw [after_amend]
  exact h.amend fun found hat => hchange found (h.of_at? hat).2

theorem preserves_ensureFile (hpath : ∀ name ∈ path, isName name) :
    Preserves FileTree.WellNamed (ensureFile now parents path) := by
  rcases List.eq_nil_or_concat' path with rfl | ⟨parent, name, rfl⟩
  · exact Preserves.throw _
  · obtain ⟨hparent, hname⟩ := List.forall_mem_append.1 hpath
    rw [ensureFile_append]
    refine Preserves.bind (preserves_openDir hparent) fun inside => ?_
    unfold ensureIn
    split
    · exact Preserves.pure _
    · exact Preserves.throw _
    · exact preserves_addChild (hname name List.mem_cons_self) trivial

theorem preserves_touch (hpath : ∀ name ∈ path, isName name) :
    Preserves FileTree.WellNamed (touch now path) := by
  refine Preserves.bind (preserves_ensureFile hpath) fun _ => ?_
  exact Preserves.bind (preserves_amend fun _ h => h.touched now) fun _ => Preserves.pure _

theorem preserves_writeFile (hpath : ∀ name ∈ path, isName name) :
    Preserves FileTree.WellNamed (writeFile now path text parents) := by
  refine Preserves.bind (preserves_ensureFile hpath) fun _ => ?_
  exact Preserves.bind (preserves_amend fun _ h => h.withText now text) fun _ => Preserves.pure _

/-- The name is checked before anything is made. -/
theorem preserves_create : Preserves FileTree.WellNamed (create now parent name kind) := by
  unfold create
  cases hname : isName name with
  | false => exact Preserves.quiet fun tree => by simp
  | true =>
    simp only [Bool.not_true, Bool.false_eq_true, if_false]
    refine Preserves.bind_ask fun _ inside _ _ => ?_
    cases hsome : (inside.find? name).isSome with
    | true => exact Preserves.quiet fun tree => by simp
    | false =>
      simp only [Bool.false_eq_true, if_false]
      split
      · exact Preserves.bind (preserves_addChild hname trivial) fun _ => Preserves.pure _
      · exact Preserves.bind (preserves_addChild hname trivial) fun _ => Preserves.pure _
      · exact Preserves.quiet fun tree => by simp

theorem preserves_mkdir (hpath : ∀ name ∈ path, isName name) :
    Preserves FileTree.WellNamed (mkdir now path parents existOk) := by
  unfold mkdir
  refine Preserves.bind (Preserves.quiet fun _ => rfl) fun tree => ?_
  split
  · exact Preserves.pure _
  · rcases List.eq_nil_or_concat' path with rfl | ⟨parent, name, rfl⟩
    · exact Preserves.throw _
    · obtain ⟨hparent, -⟩ := List.forall_mem_append.1 hpath
      rw [openParent_append]
      refine Preserves.bind ?_ fun opened => preserves_create
      exact Preserves.bind (preserves_openDir hparent) fun _ => Preserves.pure _

theorem preserves_remove : Preserves FileTree.WellNamed (remove now path recursive) := by
  unfold remove
  split
  · exact Preserves.throw _
  · next parent name _ =>
    refine Preserves.bind_ask fun tree node _ _ => ?_
    cases node with
    | file stamps text => exact preserves_removeChild
    | dir stamps inside =>
      dsimp only
      split
      · exact Preserves.throw _
      · exact preserves_removeChild

/-- What is transferred keeps its name or gets the last one of the target. -/
theorem isName_of_planTransfer {tree : FileTree} {plan : Transfer}
    (hsource : ∀ name ∈ source, isName name) (htarget : ∀ name ∈ target, isName name)
    (hplan : planTransfer source target tree = .ok plan) : isName plan.name := by
  obtain ⟨hsplit, -, hplace, -⟩ := planTransfer_eq_ok hplan
  rcases name_of_destination hplace with heq | hmem
  · refine hsource plan.name ?_
    rw [← Path.append_of_split? hsplit, heq]
    exact List.mem_concat_self
  · exact htarget plan.name hmem

/-- What is transferred is well named. -/
theorem wellNamed_of_planTransfer {tree : FileTree} {plan : Transfer} (h : tree.WellNamed)
    (htarget : ∀ name ∈ target, isName name)
    (hplan : planTransfer source target tree = .ok plan) :
    isName plan.name ∧ plan.node.WellNamed := by
  obtain ⟨-, hnode, -, -⟩ := planTransfer_eq_ok hplan
  obtain ⟨hsource, hwell⟩ := h.of_at? (FileTree.resolve_eq_ok_iff.1 hnode)
  exact ⟨isName_of_planTransfer hsource htarget hplan, hwell⟩

theorem preserves_copy (htarget : ∀ name ∈ target, isName name) :
    Preserves FileTree.WellNamed (copy now source target) := by
  unfold copy
  refine Preserves.bind_ask fun tree plan hplan h => ?_
  obtain ⟨hname, hnode⟩ := wellNamed_of_planTransfer h htarget hplan
  exact Preserves.bind (preserves_addChild hname (hnode.renewed now)) fun _ => Preserves.pure _

theorem preserves_move (htarget : ∀ name ∈ target, isName name) :
    Preserves FileTree.WellNamed (move now source target) := by
  unfold move
  refine Preserves.bind_ask fun tree plan hplan h => ?_
  obtain ⟨hname, hnode⟩ := wellNamed_of_planTransfer h htarget hplan
  refine Preserves.bind preserves_removeChild fun _ => ?_
  exact Preserves.bind (preserves_addChild hname (hnode.touched now)) fun _ => Preserves.pure _

theorem preserves_upload {files : List (Path × String)}
    (hfiles : ∀ file ∈ files, ∀ name ∈ file.1, isName name) :
    Preserves FileTree.WellNamed (upload now files) := by
  rw [upload_eq]
  refine Preserves.bind (Preserves.quiet fun _ => after_checkAll) fun _ => ?_
  induction files with
  | nil => exact Preserves.pure _
  | cons file files ih =>
    obtain ⟨hfile, hrest⟩ := List.forall_mem_cons.1 hfiles
    rw [writeAll]
    refine Preserves.bind (preserves_writeFile hfile) fun _ => ?_
    exact Preserves.bind (ih hrest) fun _ => Preserves.pure _

end Edit

/-- **Every operation leaves a well-named tree well named**, whether it fails or not, for all its
paths are read from texts. -/
theorem Operation.preserves_wellNamed (now : Nat) (cwd : String) (operation : Operation) :
    Edit.Preserves FileTree.WellNamed (operation.perform now cwd) := by
  have hread := Path.isName_of_mem_read cwd
  cases operation with
  | create parent name kind =>
    exact Edit.Preserves.bind Edit.preserves_create fun _ => Edit.Preserves.pure _
  | mkdir path parents existOk =>
    exact Edit.Preserves.bind (Edit.preserves_mkdir (hread _)) fun _ => Edit.Preserves.pure _
  | touch path =>
    exact Edit.Preserves.bind (Edit.preserves_touch (hread _)) fun _ => Edit.Preserves.pure _
  | writeFile path text parents =>
    exact Edit.Preserves.bind (Edit.preserves_writeFile (hread _)) fun _ => Edit.Preserves.pure _
  | upload files =>
    refine Edit.preserves_upload fun file hfile => ?_
    obtain ⟨given, -, rfl⟩ := List.mem_map.1 hfile
    exact hread _
  | remove path recursive =>
    exact Edit.Preserves.bind Edit.preserves_remove fun _ => Edit.Preserves.pure _
  | copy source target =>
    exact Edit.Preserves.bind (Edit.preserves_copy (hread _)) fun _ => Edit.Preserves.pure _
  | move source target =>
    exact Edit.Preserves.bind (Edit.preserves_move (hread _)) fun _ => Edit.Preserves.pure _

end Shellbox
