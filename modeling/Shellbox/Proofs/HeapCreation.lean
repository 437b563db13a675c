import Mathlib.Data.List.Forall2
import Shellbox.Proofs.HeapRuns
/-!
# Making, writing and removing linked nodes

Each edit on linked nodes is compared with the edit of trees of the same name. A node that an edit
answers with is at the path that the other one answers with, and nodes from before are where they
were, so that the answers to a batch of files all hold in the end.
-/

namespace Shellbox
namespace HeapEdit

variable {α β γ δ : Type} {heap heap' : Heap} {tree : FileTree} {path parent : Path}
  {dir child ref : Ref} {name text kind : String} {now : ℕ} {parents existOk : Bool}

/-- A node is at a path, and the nodes from before are where they were. -/
def Found (heap : Heap) (ref : Ref) (path : Path) (heap' : Heap) : Prop :=
  heap.Keeps heap' ∧ heap'.at? path = some ref

/-! ### Files -/

/-- What `ensureFile` does when the directory of the path is open. -/
def ensureIn (now : ℕ) (name : String) (dir : Ref) : HeapEdit Ref := do
  let heap ← get
  match heap.child? dir name with
  | some child =>
    if heap.isDir child then throw (.isADirectory (heap.pathOf child)) else return child
  | none =>
    let child ← make now name (.file "")
    addChild now dir child
    return child

theorem openParent_append :
    openParent now parents (parent ++ [name]) =
      openDir now parents Heap.root parent >>= fun dir => pure (dir, name) := by
  unfold openParent
  rw [Path.split?_append]

theorem ensureFile_append :
    ensureFile now parents (parent ++ [name]) =
      openDir now parents Heap.root parent >>= ensureIn now name := by
  unfold ensureFile
  rw [openParent_append, bind_assoc]
  simp only [pure_bind]
  rfl

theorem follows_ensureIn {stamps : Stamps} {inside : Entries} (hshows : heap.Shows tree)
    (hat : heap.at? parent = some dir) (hlooks : heap.Looks dir (.dir stamps inside))
    (hname : Edit.isName name) :
    Follows (fun file _ => Found heap file (parent ++ [name])) (ensureIn now name dir)
      (Edit.ensureIn now parent name inside) heap tree := by
  rw [Follows, ensureIn, run_bind_of_ok (run_get heap), Edit.ensureIn]
  rcases hlooks.child_cases name with ⟨hchild, hfind⟩ | ⟨child, node, hchild, hfind, hnode⟩
  · rw [hchild, hfind]
    exact follows_planted hshows hat hlooks.isDir_of_dir hchild hname (.file "")
  · have hplace : heap.at? (parent ++ [name]) = some child := by
      rw [Heap.at?_append, hat, Option.bind_some, Heap.below_singleton, hchild]
    rw [hchild, hfind]
    dsimp only
    rw [hnode.isDir_eq, hshows.linked.pathOf_eq hplace]
    cases node with
    | file stamps text => exact .done hshows ⟨.refl heap, hplace⟩
    | dir stamps inside => exact .failed hshows

theorem follows_ensureFile (hshows : heap.Shows tree) (hpath : ∀ name ∈ path, Edit.isName name) :
    Follows (fun file _ => Found heap file path) (ensureFile now parents path)
      (Edit.ensureFile now parents path) heap tree := by
  rcases List.eq_nil_or_concat' path with rfl | ⟨parent, name, rfl⟩
  · exact .failed hshows
  · obtain ⟨hparent, hname⟩ := List.forall_mem_append.1 hpath
    rw [ensureFile_append, Edit.ensureFile_append]
    refine (follows_openDir hshows heap.at?_nil hparent).bind
      fun dir inside heap' tree' hshows' ⟨hkeeps, hdir, stamps, hlooks⟩ => ?_
    refine (follows_ensureIn hshows' hdir hlooks (hname name List.mem_cons_self)).imp
      fun file _ heap'' hfile => ⟨hkeeps.trans hfile.1, hfile.2⟩

theorem follows_touch (hshows : heap.Shows tree) (hpath : ∀ name ∈ path, Edit.isName name) :
    Follows (Found heap) (touch now path) (Edit.touch now path) heap tree := by
  refine (follows_ensureFile hshows hpath).bind
    fun file _ heap' tree' hshows' ⟨hkeeps, hat⟩ => ?_
  have hkept := Heap.keeps_alter (Heap.children_congr (Heap.held_touched heap' file now))
  exact .done (hshows'.touched hat now) ⟨hkeeps.trans hkept, hkept path file hat⟩

theorem follows_writeFile (hshows : heap.Shows tree) (hpath : ∀ name ∈ path, Edit.isName name) :
    Follows (Found heap) (writeFile now path text parents) (Edit.writeFile now path text parents)
      heap tree := by
  refine (follows_ensureFile hshows hpath).bind
    fun file _ heap' tree' hshows' ⟨hkeeps, hat⟩ => ?_
  have hkept := Heap.keeps_alter (Heap.withText_same heap' file now text).2
  exact .done (hshows'.withText hat now text) ⟨hkeeps.trans hkept, hkept path file hat⟩

/-! ### Files and directories under a name -/

theorem follows_create (hshows : heap.Shows tree) :
    Follows (Found heap) (create now parent name kind) (Edit.create now parent name kind) heap tree := by
  unfold create Edit.create
  cases hname : Edit.isName name with
  | false => exact .failed hshows
  | true =>
    refine (follows_directory hshows parent).bind
      fun dir inside heap' tree' hshows' ⟨hkeeps, hat, stamps, hlooks⟩ => ?_
    rw [Follows, run_bind_of_ok (run_get heap'), hshows'.linked.pathOf_eq hat]
    rcases hlooks.child_cases name with ⟨hchild, hfind⟩ | ⟨child, node, hchild, hfind, -⟩
    · rw [hchild, hfind]
      have hplace : ∀ {held node}, Heap.Sprout now held node →
          Follows (Found heap)
            (do let child ← make now name held; addChild now dir child; return child)
            (do Edit.addChild now parent name node; return parent ++ [name]) heap' tree' :=
        fun hsprout => (follows_planted hshows' hat hlooks.isDir_of_dir hchild hname hsprout).answer
          fun child _ heap'' hchild => ⟨hkeeps.trans hchild.1, hchild.2⟩
      by_cases hfile : kind = "file"
      · subst hfile
        exact hplace (.file "")
      · by_cases hdir : kind = "dir"
        · subst hdir
          exact hplace .dir
        · simp only [Option.isSome_none, Bool.false_eq_true, if_false]
          exact .failed hshows'
    · rw [hchild, hfind]
      exact .failed hshows'

/-- The directory in which a new one is made is handed on by its path. -/
theorem follows_mkdirIn (hshows : heap.Shows tree) (hpath : ∀ name ∈ path, Edit.isName name) :
    Follows (Found heap)
      (do
        let (dir, name) ← openParent now parents path
        create now (Path.read "/" (some ((← get).pathOf dir).render)) name "dir")
      (do
        let (parent, name, _) ← Edit.openParent now parents path
        Edit.create now parent name "dir") heap tree := by
  rcases List.eq_nil_or_concat' path with rfl | ⟨parent, name, rfl⟩
  · exact .failed hshows
  · have hparent := (List.forall_mem_append.1 hpath).1
    rw [openParent_append, Edit.openParent_append, bind_assoc, bind_assoc]
    simp only [pure_bind]
    refine (follows_openDir hshows heap.at?_nil hparent).bind
      fun dir inside heap' tree' hshows' ⟨hkeeps, hat, _⟩ => ?_
    rw [Follows, run_bind_of_ok (run_get heap'), hshows'.linked.pathOf_eq hat, List.nil_append,
      Path.read_render hparent]
    exact (follows_create hshows').imp fun _ _ _ hfound => ⟨hkeeps.trans hfound.1, hfound.2⟩

theorem follows_mkdir (hshows : heap.Shows tree) (hpath : ∀ name ∈ path, Edit.isName name) :
    Follows (Found heap) (mkdir now path parents existOk) (Edit.mkdir now path parents existOk)
      heap tree := by
  unfold mkdir Edit.mkdir
  rw [Follows, run_bind_of_ok (run_get heap), hshows.hasDir_eq]
  change Alike _ _ ((if existOk && tree.hasDir path then pure path else _ : Edit Path).run.run tree)
  cases hthere : existOk && tree.hasDir path with
  | false => exact follows_mkdirIn hshows hpath
  | true =>
    have htree := (Bool.and_eq_true_iff.1 hthere).2
    obtain ⟨inside, hinside⟩ := FileTree.directory_ok_iff_content?.2 (FileTree.hasDir_iff.1 htree)
    rcases hshows.directory_cases path with
      ⟨dir, stamps, inside', hdir, -, hat, -⟩ | ⟨fault, -, hfault⟩
    · change Alike _ (heap.directory path, heap) _
      rw [hdir]
      exact .done hshows ⟨.refl heap, hat⟩
    · rw [hinside] at hfault
      cases hfault

/-! ### Batches of files -/

theorem follows_checkUpload (hshows : heap.Shows tree) (path : Path) :
    Follows (fun _ _ heap' => heap' = heap) (checkUpload path) (Edit.checkUpload path) heap tree := by
  unfold checkUpload Edit.checkUpload
  cases path with
  | nil => exact .failed hshows
  | cons name rest =>
    have hobstacle := hshows.looks.uploadObstacle_eq hshows.linked heap.at?_nil (name :: rest)
    simp only [List.isEmpty_cons, Bool.false_eq_true, if_false]
    rw [Follows, run_bind_of_ok (run_get heap), Edit.run_bind_of_ok tree (Edit.outcome_get tree),
      Edit.after_get, hobstacle]
    cases Edit.uploadObstacle [] (name :: rest) tree.root with
    | none => exact .done hshows rfl
    | some fault => exact .failed hshows

theorem follows_checkAll (hshows : heap.Shows tree) (files : List (Path × String)) :
    Follows (fun _ _ heap' => heap' = heap)
      (forIn files PUnit.unit fun file _ => do checkUpload file.1; return .yield PUnit.unit)
      (Edit.checkAll files) heap tree := by
  induction files generalizing tree with
  | nil => exact .done hshows rfl
  | cons file files ih =>
    rw [List.forIn_cons, bind_assoc]
    refine (follows_checkUpload hshows file.1).bind fun _ _ heap' tree' hshows' hsame => ?_
    subst hsame
    exact ih hshows'

/-- Nodes are at paths, one at each. -/
def Placed (refs : List Ref) (places : List Path) (heap : Heap) : Prop :=
  List.Forall₂ (fun ref place => heap.at? place = some ref) refs places

/-- Nodes are at paths, one at each, and the nodes from before are where they were. -/
def Answered (heap : Heap) (refs : List Ref) (places : List Path) (heap' : Heap) : Prop :=
  heap.Keeps heap' ∧ Placed refs places heap'

theorem follows_writeAll {files : List (Path × String)} (hshows : heap.Shows tree)
    (hfiles : ∀ file ∈ files, ∀ name ∈ file.1, Edit.isName name) :
    Follows (Answered heap) (files.mapM fun (path, text) => writeFile now path text true)
      (Edit.writeAll now files) heap tree := by
  induction files generalizing heap tree with
  | nil => exact .done hshows ⟨.refl heap, .nil⟩
  | cons file files ih =>
    obtain ⟨hfile, hfiles⟩ := List.forall_mem_cons.1 hfiles
    rw [List.mapM_cons]
    refine (follows_writeFile hshows hfile).bind fun ref place heap' tree' hshows' hfound => ?_
    refine (ih hshows' hfiles).bind fun refs places heap'' tree'' hshows'' hanswered => ?_
    exact .done hshows'' ⟨hfound.1.trans hanswered.1,
      .cons (hanswered.1 place ref hfound.2) hanswered.2⟩

theorem follows_upload {files : List (Path × String)} (hshows : heap.Shows tree)
    (hfiles : ∀ file ∈ files, ∀ name ∈ file.1, Edit.isName name) :
    Follows (Answered heap) (upload now files) (Edit.upload now files) heap tree := by
  rw [Edit.upload_eq]
  refine (follows_checkAll hshows files).bind fun _ _ heap' tree' hshows' hsame => ?_
  subst hsame
  exact follows_writeAll hshows' hfiles

/-! ### Removing -/

/-- The links of a node lead to the directory that it is taken out of. -/
theorem follows_removeChild (hshows : heap.Shows tree)
    (hat : heap.at? (parent ++ [name]) = some ref) (now : ℕ) (fault : Fault) :
    Follows (fun _ _ _ => True)
      (match (heap.cell ref).parent with
        | none => throw fault
        | some dir => removeChild now dir (heap.cell ref).name)
      (Edit.removeChild now parent name) heap tree := by
  obtain ⟨dir, hdir, hchild⟩ := Heap.at?_concat hat
  obtain ⟨hcalled, hparent, -, -⟩ := hshows.linked.of_child? hchild
  obtain ⟨node, hnode, -⟩ := hshows.looks_of_at? hat
  rw [hparent, hcalled, Follows, run_removeChild hchild, run_removeChild_tree hnode]
  exact .done (hshows.release hdir hchild now) trivial

theorem follows_remove {recursive : Bool} (hshows : heap.Shows tree) (path : Path) :
    Follows (fun _ _ _ => True) (remove now path recursive) (Edit.remove now path recursive)
      heap tree := by
  rcases List.eq_nil_or_concat' path with rfl | ⟨parent, name, rfl⟩
  · exact .failed hshows
  · unfold remove Edit.remove
    rw [Path.split?_append]
    have hsome : (parent ++ [name]).isEmpty = false := by simp
    simp only [hsome, Bool.false_eq_true, if_false]
    refine (follows_resolve hshows _).bind fun ref node heap' tree' hshows' ⟨hsame, hat, hlooks⟩ => ?_
    subst hsame
    have hremove := follows_removeChild hshows' hat now (.parentless "remove")
    rw [Follows, run_bind_of_ok (run_get heap')]
    cases node with
    | file stamps text =>
      rw [hlooks.children_of_file]
      exact hremove
    | dir stamps inside =>
      rw [hlooks.isEmpty_eq]
      dsimp only
      cases !inside.isEmpty && !recursive with
      | true => exact .failed hshows'
      | false => exact hremove

end HeapEdit
end Shellbox
