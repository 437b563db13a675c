import Shellbox.Proofs.HeapRelinks
/-!
# Edits of linked nodes and of trees side by side

An edit of linked nodes follows an edit of trees if, begun with nodes that show the tree, both
succeed or both fail for the same cause, and the nodes show the tree afterwards in either case
(`HeapEdit.Follows`). What the two answer with may differ, as a node differs from its path; the
relation says how the answers belong together.

Edits follow each other step by step (`HeapEdit.Follows.bind`). The walk that opens a directory is
the one that takes more: the nodes are changed on the way, while the tree is taken apart and put
together again. `Edit.run_openDir_made` makes the missing directories of the tree one by one as
well.
-/

namespace Shellbox
namespace HeapEdit

variable {α β γ δ : Type}

/-! ### Runs -/

/-- Results that belong together: values that do, or one cause of failure, with nodes that show the
tree. -/
inductive Alike (P : α → β → Heap → Prop) :
    Except Fault α × Heap → Except Fault β × FileTree → Prop where
  | done {value : α} {twin : β} {heap : Heap} {tree : FileTree} (shows : heap.Shows tree)
      (related : P value twin heap) : Alike P (.ok value, heap) (.ok twin, tree)
  | failed {fault : Fault} {heap : Heap} {tree : FileTree} (shows : heap.Shows tree) :
      Alike P (.error fault, heap) (.error fault, tree)

/-- An edit of linked nodes does what an edit of the tree that they show does. -/
def Follows (P : α → β → Heap → Prop) (edit : HeapEdit α) (twin : Edit β) (heap : Heap)
    (tree : FileTree) : Prop :=
  Alike P (edit.run.run heap) (twin.run.run tree)

/-- What goes on after an edit that succeeds runs on what this edit has left. -/
theorem run_bind {ε σ : Type} (edit : ExceptT ε (StateM σ) α) (next : α → ExceptT ε (StateM σ) γ)
    (state : σ) :
    (edit >>= next).run.run state = match edit.run.run state with
      | (.ok value, after) => (next value).run.run after
      | (.error fault, after) => (.error fault, after) := by
  simp only [bind, ExceptT.bind, ExceptT.mk, ExceptT.run, StateT.bind, StateT.run, ExceptT.bindCont]
  cases edit state with
  | mk result after => cases result <;> rfl

variable {edit : HeapEdit α} {twin : Edit β} {next : α → HeapEdit γ} {nextTwin : β → Edit δ}
  {P : α → β → Heap → Prop} {Q : γ → δ → Heap → Prop} {heap heap' : Heap} {tree : FileTree}
  {value : α} {fault : Fault}

/-- The nodes show the tree after any results that belong together. -/
theorem Alike.shows_after {result : Except Fault α × Heap} {result' : Except Fault β × FileTree}
    (h : Alike P result result') : result.2.Shows result'.2 := by
  cases h with
  | done shows related => exact shows
  | failed shows => exact shows

theorem run_bind_of_ok (h : edit.run.run heap = (.ok value, heap')) (next : α → HeapEdit γ) :
    (edit >>= next).run.run heap = (next value).run.run heap' := by
  rw [run_bind, h]

theorem run_get (heap : Heap) : (get : HeapEdit Heap).run.run heap = (.ok heap, heap) := rfl

/-- Edits that follow each other step by step follow each other. -/
theorem Follows.bind (h : Follows P edit twin heap tree)
    (hnext : ∀ value twin heap' tree', heap'.Shows tree' → P value twin heap' →
      Follows Q (next value) (nextTwin twin) heap' tree') :
    Follows Q (edit >>= next) (twin >>= nextTwin) heap tree := by
  rw [Follows, run_bind, run_bind]
  unfold Follows at h
  generalize edit.run.run heap = result at h
  generalize twin.run.run tree = result' at h
  cases h with
  | done shows related => exact hnext _ _ _ _ shows related
  | failed shows => exact .failed shows

theorem Follows.imp {R : α → β → Heap → Prop} (h : Follows P edit twin heap tree)
    (hP : ∀ value twin heap', P value twin heap' → R value twin heap') :
    Follows R edit twin heap tree := by
  unfold Follows at h ⊢
  generalize edit.run.run heap = result at h
  generalize twin.run.run tree = result' at h
  cases h with
  | done shows related => exact .done shows (hP _ _ _ related)
  | failed shows => exact .failed shows

/-- The edit of trees may answer with something else. -/
theorem Follows.answer {R : α → δ → Heap → Prop} {value : δ} (h : Follows P edit twin heap tree)
    (hP : ∀ found twin heap', P found twin heap' → R found value heap') :
    Follows R edit (twin >>= fun _ => pure value) heap tree := by
  have hbind : Follows R (edit >>= pure) (twin >>= fun _ => pure value) heap tree :=
    h.bind fun found twin heap' tree' hshows hrelated => .done hshows (hP found twin heap' hrelated)
  rwa [bind_pure] at hbind

/-- Questions that are answered alike. -/
theorem Follows.ask {question : Heap → Except Fault α} {twin : FileTree → Except Fault β}
    (hshows : heap.Shows tree)
    (h : (∃ value value', question heap = .ok value ∧ twin tree = .ok value' ∧ P value value' heap) ∨
      ∃ fault, question heap = .error fault ∧ twin tree = .error fault) :
    Follows P (ask question) (Edit.ask twin) heap tree := by
  change Alike P (question heap, heap) (twin tree, tree)
  rcases h with ⟨value, value', hvalue, hvalue', hP⟩ | ⟨fault, hvalue, hvalue'⟩
  · rw [hvalue, hvalue']
    exact .done hshows hP
  · rw [hvalue, hvalue']
    exact .failed hshows

/-! ### Single steps -/

section Steps

variable {seen rest : Path} {dir child ref : Ref} {name key : String} {now : ℕ} {makes : Bool}
  {node : Node} {stamps : Stamps} {inside : Entries} {held : Held}

theorem run_addChild (hfree : heap.child? dir (heap.cell child).name = none) (now : ℕ) :
    (addChild now dir child).run.run heap = (.ok (), heap.adopt now dir child) := by
  change StateT.run (ExceptT.run (if (heap.child? dir (heap.cell child).name).isSome then _ else _))
    heap = _
  rw [hfree]
  rfl

theorem run_removeChild (hchild : heap.child? dir key = some child) (now : ℕ) :
    (removeChild now dir key).run.run heap = (.ok (), heap.release now dir key child) := by
  rw [removeChild, run_bind_of_ok (run_get heap), hchild]
  rfl

theorem run_planted (hshows : heap.Shows tree) (hat : heap.at? seen = some dir)
    (hfree : heap.child? dir name = none) (now : ℕ) (held : Held) (next : Ref → HeapEdit γ) :
    (make now name held >>= fun child => addChild now dir child >>= fun _ => next child).run.run heap =
      (next heap.next).run.run (heap.planted now dir name held) := by
  have hmake : (make now name held).run.run heap =
      (.ok heap.next, heap.grown (.fresh now name held)) := rfl
  rw [run_bind_of_ok hmake, run_bind_of_ok (run_addChild (Heap.child?_grown hshows hat hfree ..) now)]
  rfl

/-- A child is added to a directory that has none of the name. -/
theorem run_addChild_tree (hat : tree.at? seen = some (.dir stamps inside))
    (hfree : inside.find? name = none) (now : ℕ) (node : Node) :
    (Edit.addChild now seen name node).run.run tree =
      (.ok (), tree.amend seen (.relisted now (·.push name node))) := by
  have hdir := FileTree.directory_eq_ok_iff.2 ⟨stamps, hat⟩
  have hadd : (Edit.addChild now seen name node).outcome tree = .ok () := by
    refine Edit.outcome_addChild_eq_ok_iff.2 ⟨FileTree.directory_ok_iff_content?.1 ⟨inside, hdir⟩, ?_⟩
    rw [FileTree.content?_child hdir, hfree]
    rfl
  exact Prod.ext hadd (Edit.after_addChild_of_ok hadd)

/-- A child is removed from a directory that has one of the name. -/
theorem run_removeChild_tree (hat : tree.at? (seen ++ [name]) = some node) (now : ℕ) :
    (Edit.removeChild now seen name).run.run tree =
      (.ok (), tree.amend seen (.relisted now (·.erase name))) := by
  have hremove : (Edit.removeChild now seen name).outcome tree = .ok () := by
    refine Edit.outcome_removeChild_eq_ok_iff.2 ?_
    rw [FileTree.content?, hat]
    exact Option.some_ne_none _
  exact Prod.ext hremove (Edit.after_removeChild_of_ok hremove)

/-- A new node in a directory is a node that is added to it. -/
theorem follows_planted (hshows : heap.Shows tree) (hat : heap.at? seen = some dir)
    (hdir : heap.isDir dir = true) (hchild : heap.child? dir name = none) (hname : Edit.isName name)
    (hsprout : Heap.Sprout now held node) :
    Follows (fun child _ heap' => heap.Keeps heap' ∧ heap'.at? (seen ++ [name]) = some child)
      (do let child ← make now name held; addChild now dir child; return child)
      (Edit.addChild now seen name node) heap tree := by
  obtain ⟨hplanted, hplace, hkeeps⟩ := hshows.planted hat hchild hdir hname hsprout
  obtain ⟨stamps, inside, htree, hlooks⟩ := hshows.dir_of_at? hat hdir
  rw [Follows, run_planted hshows hat hchild, run_addChild_tree htree (hlooks.find?_eq_none hchild)]
  exact .done hplanted ⟨hkeeps, hplace⟩

/-! ### Opening a directory -/

/-- A directory is at a path and has children that look like the given ones, and all nodes from before
are where they were. -/
def Opened (heap : Heap) (path : Path) (dir : Ref) (inside : Entries) (heap' : Heap) : Prop :=
  heap.Keeps heap' ∧ heap'.at? path = some dir ∧ ∃ stamps, heap'.Looks dir (.dir stamps inside)

/-- **Opening a directory of linked nodes is opening it in the tree.** -/
theorem follows_openDir (hshows : heap.Shows tree) (hat : heap.at? seen = some ref)
    (hrest : ∀ name ∈ rest, Edit.isName name) :
    Follows (Opened heap (seen ++ rest)) (openDir now makes ref rest)
      (Edit.openDir now makes (seen ++ rest)) heap tree := by
  induction rest generalizing heap tree seen ref with
  | nil =>
    obtain ⟨node, hnode, hlooks⟩ := hshows.looks_of_at? hat
    rw [Follows, openDir, run_bind_of_ok (run_get heap), hlooks.isDir_eq, hshows.linked.pathOf_eq hat]
    cases node with
    | file stamps text =>
      rw [Edit.run_openDir_error hnode rfl]
      exact .failed hshows
    | dir stamps inside =>
      rw [List.append_nil, Edit.run_openDir_dir hnode]
      exact .done hshows ⟨.refl heap, hat, stamps, hlooks⟩
  | cons name rest ih =>
    obtain ⟨hname, hrest⟩ := List.forall_mem_cons.1 hrest
    obtain ⟨node, hnode, hlooks⟩ := hshows.looks_of_at? hat
    rw [Follows, openDir, run_bind_of_ok (run_get heap), hlooks.isDir_eq, hshows.linked.pathOf_eq hat]
    cases node with
    | file stamps text =>
      rw [Edit.run_openDir_error hnode rfl]
      exact .failed hshows
    | dir stamps inside =>
      rw [if_pos (show (Node.dir stamps inside).isDir = true from rfl)]
      rcases hlooks.child_cases name with ⟨hchild, hfind⟩ | ⟨child, node, hchild, hfind, -⟩
      · rw [hchild]
        cases makes with
        | false =>
          have hmissing : ((Node.dir stamps inside).openDir now false seen (name :: rest)).1 =
              .error (.missing (seen ++ [name])) := by rw [Node.openDir_cons_none hfind]
          rw [Edit.run_openDir_error hnode hmissing]
          exact .failed hshows
        | true =>
          obtain ⟨hplanted, hplace, hkeeps⟩ :=
            hshows.planted hat hchild hlooks.isDir_of_dir hname (.dir : Heap.Sprout now _ _)
          have hopen := ih hplanted hplace hrest
          rw [List.append_assoc, List.singleton_append] at hopen
          rw [Edit.run_openDir_made hnode hfind]
          change Alike _ ((make now name (.dir []) >>= fun child => addChild now ref child >>= fun _ =>
            openDir now true child rest).run.run heap) _
          rw [run_planted hshows hat hchild]
          exact hopen.imp fun dir inside heap' ⟨hkept, hfound⟩ => ⟨hkeeps.trans hkept, hfound⟩
      · rw [hchild]
        have hopen := ih hshows (Heap.at?_concat_of_child? hat hchild) hrest
        rwa [List.append_assoc, List.singleton_append] at hopen

/-- A node at a path looks like the one that the tree has there, and nothing has changed. -/
def Resolved (heap : Heap) (path : Path) (ref : Ref) (node : Node) (heap' : Heap) : Prop :=
  heap' = heap ∧ heap.at? path = some ref ∧ heap.Looks ref node

/-- Asking for the node at a path is asking the tree for it. -/
theorem follows_resolve (hshows : heap.Shows tree) (path : Path) :
    Follows (Resolved heap path) (ask (·.resolve path)) (Edit.ask (·.resolve path)) heap tree := by
  refine .ask hshows ?_
  rcases hshows.resolve_cases path with ⟨ref, node, href, hnode, hat, -, hlooks⟩ | hfault
  · exact Or.inl ⟨ref, node, href, hnode, rfl, hat, hlooks⟩
  · exact Or.inr hfault

/-- Asking for a directory of linked nodes is asking for it in the tree. -/
theorem follows_directory (hshows : heap.Shows tree) (path : Path) :
    Follows (Opened heap path) (ask (·.directory path)) (Edit.ask (·.directory path)) heap tree := by
  refine .ask hshows ?_
  rcases hshows.directory_cases path with
    ⟨dir, stamps, inside, hdir, hinside, hat, -, hlooks⟩ | hfault
  · exact Or.inl ⟨dir, inside, hdir, hinside, .refl heap, hat, stamps, hlooks⟩
  · exact Or.inr hfault

end Steps

end HeapEdit
end Shellbox
