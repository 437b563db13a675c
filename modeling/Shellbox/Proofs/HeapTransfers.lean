import Shellbox.Proofs.HeapCopies
import Shellbox.Proofs.Transfer
/-!
# Copying and moving linked nodes

The plan of a transfer holds nodes where the plan for a tree holds paths. The nodes are where the
paths lead (`HeapEdit.planTransfer_cases`), so that a plan is made on one side if and only if it is made
on the other, and fails for the same cause.

What is left is to put a loose node into the directory of the plan under the name of the plan
(`Heap.Shows.settled`): a copy, which is loose since it was made in no directory, or the node itself
after it was taken out. The directory is still at its path then, because it does not lie at or below
the source.
-/

namespace Shellbox

/-- A child that is changed after it was pushed may be changed before. -/
theorem FileTree.amend_push {tree : FileTree} {path : Path} {name : String} {change : Node → Node}
    (hkeep : ∀ node, (change node).isDir = node.isDir) (now : ℕ) (node : Node)
    (hdir : tree.content? path = some .dir) (hfree : tree.content? (path ++ [name]) = none) :
    (tree.amend path (.relisted now (·.push name node))).amend (path ++ [name]) change =
      tree.amend path (.relisted now (·.push name (change node))) := by
  obtain ⟨inside, hinside⟩ := directory_ok_iff_content?.2 hdir
  rw [content?_child hinside, Option.map_eq_none_iff] at hfree
  obtain ⟨stamps, hat⟩ := directory_eq_ok_iff.1 hinside
  apply Edit.root_injective
  rw [root_amend hkeep, root_amend (Node.isDir_relisted now _),
    root_amend (Node.isDir_relisted now _), Node.amend_append]
  refine Node.amend_amend_eq hat ?_
  have hpushed : (inside.push name node).find? name = some node := by
    rw [Entries.find?_push, hfree, Option.none_or, if_pos rfl]
  rw [Node.relisted, Node.amend, hpushed]
  exact congrArg _ (Entries.replace_push_same hfree node (change node))

/-! ### A loose node that is named and put into a directory -/

namespace Heap

variable {heap : Heap} {dir child ref : Ref} {name last : String} {seen path : Path} {now : ℕ}
  {node : Node} {tree : FileTree}

/-- A directory of the tree is one of the heap. -/
theorem Shows.isDir_of_content? (h : heap.Shows tree) (hat : heap.at? seen = some dir)
    (hdir : tree.content? seen = some .dir) : heap.isDir dir = true := by
  obtain ⟨node, hnode, hlooks⟩ := h.looks_of_at? hat
  rw [hlooks.isDir_eq, ← Node.content_eq_dir_iff]
  rw [FileTree.content?, hnode] at hdir
  exact Option.some.inj hdir

/-- Under a name that is free in the tree there is no node. -/
theorem Shows.child?_of_content? (h : heap.Shows tree) (hat : heap.at? seen = some dir)
    (hfree : tree.content? (seen ++ [name]) = none) : heap.child? dir name = none := by
  by_contra hsome
  obtain ⟨child, hchild⟩ := Option.ne_none_iff_exists'.1 hsome
  obtain ⟨node, hnode, -⟩ := h.looks_of_at? (at?_concat_of_child? hat hchild)
  rw [FileTree.content?, hnode] at hfree
  cases hfree

/-- Gives a node a name and puts it into a directory. -/
def settled (now : ℕ) (dir child : Ref) (name : String) (heap : Heap) : Heap :=
  (heap.alter child fun cell => { cell with name }).adopt now dir child

section Settled

variable (h : heap.Shows tree) (hat : heap.at? seen = some dir)
  (hdir : tree.content? seen = some .dir) (hfree : tree.content? (seen ++ [name]) = none)
  (hloose : heap.Loose child)

include h hat hfree hloose

theorem Shows.renamed :
    (heap.alter child fun cell => { cell with name }).Shows tree ∧
      (heap.alter child fun cell => { cell with name }).at? seen = some dir ∧
      ((heap.alter child fun cell => { cell with name }).cell child).name = name ∧
      (heap.alter child fun cell => { cell with name }).child? dir name = none := by
  have hseen : (heap.alter child fun cell => { cell with name }).at? seen = some dir := by
    rw [at?, below_rename, ← at?, hat]
  have hshows : (heap.alter child fun cell => { cell with name }).Shows tree :=
    ⟨h.linked.rename hloose name, looks_rename name h.looks⟩
  exact ⟨hshows, hseen, congrArg Cell.name cell_alter_self, hshows.child?_of_content? hseen hfree⟩

theorem run_settled {α : Type} (now : ℕ) (next : HeapEdit α) :
    (HeapEdit.change child (fun cell => { cell with name }) >>= fun _ =>
      HeapEdit.addChild now dir child >>= fun _ => next).run.run heap =
        next.run.run (heap.settled now dir child name) := by
  obtain ⟨-, -, hcalled, hchild⟩ := h.renamed hat hfree hloose
  have hchange : (HeapEdit.change child (fun cell => { cell with name })).run.run heap =
    (.ok (), heap.alter child fun cell => { cell with name }) := rfl
  rw [HeapEdit.run_bind_of_ok hchange,
    HeapEdit.run_bind_of_ok (HeapEdit.run_addChild (by rwa [hcalled]) now)]
  rfl

include hdir

/-- **A loose node that is put into a directory under a new name shows as one that is pushed**, and is
at its place. -/
theorem Shows.settled (hname : Edit.isName name) (hchild : heap.Looks child node) (now : ℕ) :
    (heap.settled now dir child name).Shows (tree.amend seen (.relisted now (·.push name node))) ∧
      (heap.settled now dir child name).at? (seen ++ [name]) = some child := by
  obtain ⟨hshows, hseen, hcalled, hfree⟩ := h.renamed hat hfree hloose
  have hdir := hshows.isDir_of_content? hseen hdir
  have hrenamed := hloose.rename hname
  have hadopt := hshows.adopt hseen hdir hrenamed now (by rwa [hcalled]) (looks_rename name hchild)
  have hplace := hshows.at?_adopt hseen hdir hrenamed now
  rw [hcalled] at hadopt hplace
  exact ⟨hadopt, hplace⟩

end Settled

end Heap

namespace HeapEdit

variable {heap : Heap} {dir ref : Ref} {name last : String} {source target : Path} {now : ℕ}
  {node : Node} {tree : FileTree} {plan : Edit.Transfer}

/-! ### Plans -/

/-- The destination on one side is that on the other. -/
theorem destination_cases (h : heap.Shows tree) (target : Path) (name : String) :
    (∃ dir parent last, destination target name heap = .ok (dir, last) ∧
        Edit.destination target name tree = .ok (parent, last) ∧ heap.at? parent = some dir) ∨
      ∃ fault, destination target name heap = .error fault ∧
        Edit.destination target name tree = .error fault := by
  unfold destination Edit.destination
  rcases h.resolve_cases target with ⟨ref, node, href, hnode, hat, -, hlooks⟩ | ⟨fault, href, hnode⟩
  · rw [href, hnode]
    dsimp only
    rw [hlooks.isDir_eq, h.linked.pathOf_eq hat]
    cases node with
    | file stamps text => exact Or.inr ⟨_, rfl, rfl⟩
    | dir stamps inside =>
      dsimp only
      rcases hlooks.child_cases name with ⟨hchild, hfind⟩ | ⟨child, node, hchild, hfind, -⟩
      · rw [hchild, hfind]
        exact Or.inl ⟨ref, target, name, rfl, rfl, hat⟩
      · rw [hchild, hfind]
        exact Or.inr ⟨_, rfl, rfl⟩
  · rw [href, hnode]
    cases htarget : target.split? with
    | none => cases fault <;> exact Or.inr ⟨_, rfl, rfl⟩
    | some place =>
      cases fault with
      | missing path =>
        dsimp only
        rcases h.directory_cases place.1 with
          ⟨dir, stamps, inside, hdir, hinside, hat, -⟩ | ⟨fault, hdir, hinside⟩
        · rw [hdir, hinside]
          exact Or.inl ⟨dir, place.1, place.2, rfl, rfl, hat⟩
        · rw [hdir, hinside]
          exact Or.inr ⟨fault, rfl, rfl⟩
      | _ => exact Or.inr ⟨_, rfl, rfl⟩

/-- **A transfer of linked nodes is planned as the one in the tree**: the nodes of the plan are where
its paths lead. -/
theorem planTransfer_cases (h : heap.Shows tree) (source target : Path) :
    (∃ ref dir plan, planTransfer source target heap = .ok (ref, dir, plan.name) ∧
        Edit.planTransfer source target tree = .ok plan ∧ heap.at? source = some ref ∧
          heap.Looks ref plan.node ∧ heap.at? plan.parent = some dir) ∨
      ∃ fault, planTransfer source target heap = .error fault ∧
        Edit.planTransfer source target tree = .error fault := by
  rcases List.eq_nil_or_concat' source with rfl | ⟨parent, name, rfl⟩
  · exact Or.inr ⟨.rootTransfer, rfl, rfl⟩
  · have hsome : (parent ++ [name]).isEmpty = false := by simp
    unfold planTransfer Edit.planTransfer
    rw [Path.split?_append, hsome, if_neg Bool.false_ne_true]
    rcases h.resolve_cases (parent ++ [name]) with
      ⟨ref, node, href, hnode, hat, -, hlooks⟩ | ⟨fault, href, hnode⟩
    · obtain ⟨above, -, hchild⟩ := Heap.at?_concat hat
      have hcalled := (h.linked.of_child? hchild).1
      rcases destination_cases h target name with
        ⟨dir, place, last, hdir, hplace, hatPlace⟩ | ⟨fault, hdir, hplace⟩
      · simp only [bind, Except.bind, href, hnode, hcalled, hdir, hplace, hlooks.isDir_eq,
          h.linked.pathOf_eq hatPlace]
        cases node.isDir && Path.within (parent ++ [name]) place with
        | true => exact Or.inr ⟨_, rfl, rfl⟩
        | false =>
          exact Or.inl ⟨ref, dir, ⟨node, parent, name, place, last⟩, rfl, rfl, hat, hlooks, hatPlace⟩
      · simp only [bind, Except.bind, href, hnode, hcalled, hdir, hplace]
        exact Or.inr ⟨fault, rfl, rfl⟩
    · rw [href, hnode]
      exact Or.inr ⟨fault, rfl, rfl⟩

/-- An edit that begins with the plan of a transfer follows another one if it does so from every plan
on. -/
theorem follows_planned {α β : Type} {P : α → β → Heap → Prop}
    {next : Ref × Ref × String → HeapEdit α} {nextTwin : Edit.Transfer → Edit β}
    (h : heap.Shows tree)
    (hnext : ∀ ref dir plan, Edit.planTransfer source target tree = .ok plan →
      heap.at? source = some ref → heap.Looks ref plan.node → heap.at? plan.parent = some dir →
        Follows P (next (ref, dir, plan.name)) (nextTwin plan) heap tree) :
    Follows P (ask (planTransfer source target) >>= next)
      (Edit.ask (Edit.planTransfer source target) >>= nextTwin) heap tree := by
  have hask : (ask (planTransfer source target)).run.run heap =
      (planTransfer source target heap, heap) := rfl
  have htree : (Edit.ask (Edit.planTransfer source target)).run.run tree =
      (Edit.planTransfer source target tree, tree) := rfl
  rw [Follows, run_bind, run_bind, hask, htree]
  rcases planTransfer_cases h source target with
    ⟨ref, dir, plan, hheap, hplan, hat, hlooks, hplace⟩ | ⟨fault, hheap, hplan⟩
  · rw [hheap, hplan]
    exact hnext ref dir plan hplan hat hlooks hplace
  · rw [hheap, hplan]
    exact .failed h

/-! ### Copying -/

/-- **Copying linked nodes is copying in the tree.** -/
theorem follows_copy (h : heap.Shows tree) (hsource : ∀ name ∈ source, Edit.isName name)
    (htarget : ∀ name ∈ target, Edit.isName name) :
    Follows (fun ref place heap' => heap'.at? place = some ref) (copy now source target)
      (Edit.copy now source target) heap tree := by
  unfold copy Edit.copy
  refine follows_planned h fun ref dir plan hplan hat hlooks hplace => ?_
  have hfits := Edit.fits_of_planTransfer hplan
  have hname := Edit.isName_of_planTransfer hsource htarget hplan
  have hadd := hfits.outcome_addChild now (plan.node.renewed now)
  obtain ⟨new, heap', hrun, hcloned⟩ :=
    exists_run_cloneNode h.linked (h.linked.fathomed hat hlooks) now
  have hshows := hcloned.kept.shows h hcloned.linked
  have hdir := (hcloned.kept.at?_eq h.linked plan.parent).trans hplace
  have hcalled : Edit.isName (heap.cell ref).name := by
    rw [hfits.source_eq] at hat
    obtain ⟨above, -, hchild⟩ := Heap.at?_concat hat
    obtain ⟨hcalled, -, hproper, -⟩ := h.linked.of_child? hchild
    rwa [hcalled]
  have hloose := hcloned.loose h.linked hcalled
  obtain ⟨hsettled, hthere⟩ := hshows.settled hdir hfits.parent_dir hfits.place_free hloose hname
    hcloned.looks now
  rw [Follows, Edit.run_bind_of_ok tree hadd, Edit.after_addChild_of_ok hadd]
  dsimp only
  rw [run_bind_of_ok (run_get heap), run_bind_of_ok hrun,
    Heap.run_settled hshows hdir hfits.place_free hloose]
  exact .done hsettled hthere

/-! ### Moving -/

/-- **Moving linked nodes is moving in the tree.** -/
theorem follows_move (h : heap.Shows tree) (hsource : ∀ name ∈ source, Edit.isName name)
    (htarget : ∀ name ∈ target, Edit.isName name) :
    Follows (fun ref place heap' => heap'.at? place = some ref) (move now source target)
      (Edit.move now source target) heap tree := by
  unfold move Edit.move
  refine follows_planned h fun ref dir plan hplan hat hlooks hplace => ?_
  have hfits := Edit.fits_of_planTransfer hplan
  have hname := Edit.isName_of_planTransfer hsource htarget hplan
  have hremove := hfits.outcome_removeChild now
  have hadd := hfits.outcome_addChild_removed now now (plan.node.touched now)
  obtain ⟨hparentDir, hfree⟩ := Edit.outcome_addChild_eq_ok_iff.1 hadd
  obtain ⟨above, habove, hchild⟩ := Heap.at?_concat (hfits.source_eq ▸ hat)
  obtain ⟨hcalled, hparent, -, -⟩ := h.linked.of_child? hchild
  -- the node is taken out, and the directory of the plan stays where it is
  have hout := h.release habove hchild now
  have hdir := ((Heap.relists_release h.linked habove hchild now).at?_eq h.linked habove
    (hfits.source_eq ▸ hfits.parent_outside)).trans hplace
  have hloose := Heap.loose_released h.linked habove hchild now
  have hnode := Heap.looks_released h.linked habove hchild hlooks now
  obtain ⟨hsettled, hthere⟩ := hout.settled hdir hparentDir hfree hloose hname hnode now
  have htouched := hsettled.touched hthere now
  rw [FileTree.amend_push (Node.isDir_touched now) now plan.node hparentDir hfree] at htouched
  rw [Follows, Edit.run_bind_of_ok tree hremove, Edit.after_removeChild_of_ok hremove,
    Edit.run_bind_of_ok _ hadd, Edit.after_addChild_of_ok hadd]
  dsimp only
  rw [run_bind_of_ok (run_get heap), hparent]
  dsimp only
  rw [hcalled, run_bind_of_ok (run_removeChild hchild now),
    Heap.run_settled hout hdir hfree hloose]
  refine .done htouched ?_
  exact Heap.keeps_alter (Heap.children_congr (Heap.held_touched _ ref now)) _ _ hthere

end HeapEdit
end Shellbox
