import Mathlib.Tactic.SplitIfs
import Shellbox.Proofs.Writing
/-!
# Copying, moving and removing

`copy` and `move` start with the same plan. `Transfer.Fits` says what a plan that was made promises
about the tree: the source is there, the destination is a directory with a free name, and it does
not lie at or below the source. From these promises every later step succeeds, so that the plan
alone decides how both edits end (`outcome_copy`, `outcome_move`) and neither fails half-way.
-/

namespace Shellbox
namespace Edit

/-- The path at which a transferred node ends up. -/
def Transfer.place (plan : Transfer) : Path := plan.parent ++ [plan.name]

/-- What a plan promises about the tree that it was made for. -/
structure Transfer.Fits (tree : FileTree) (source : Path) (plan : Transfer) : Prop where
  source_eq : source = plan.sourceParent ++ [plan.sourceName]
  at_source : tree.at? source = some plan.node
  parent_dir : tree.content? plan.parent = some .dir
  place_free : tree.content? plan.place = none
  parent_outside : ¬source <+: plan.parent

variable {now : Nat} {source target parent : Path} {name last : String} {plan : Transfer}
  {tree : FileTree} {fault : Fault}

theorem resolve_error_content? (h : tree.resolve target = .error fault) :
    tree.content? target = none := by
  rw [FileTree.content?, Option.map_eq_none_iff]
  cases hat : tree.at? target with
  | none => rfl
  | some node => rw [FileTree.resolve_eq_ok_iff.2 hat] at h; cases h

/-- A destination is a directory and a name that it does not have: the target and the name of the
node, or else they make up the target. -/
theorem destination_eq_ok (h : destination target name tree = .ok (parent, last)) :
    tree.content? parent = some .dir ∧ tree.content? (parent ++ [last]) = none ∧
      (parent = target ∧ last = name ∨ parent ++ [last] = target) := by
  unfold destination at h
  split at h
  · next stamps inside hresolve =>
    have hat := FileTree.resolve_eq_ok_iff.1 hresolve
    have hdir := FileTree.directory_eq_ok_iff.2 ⟨stamps, hat⟩
    split_ifs at h with hsome
    cases h
    refine ⟨FileTree.directory_ok_iff_content?.1 ⟨inside, hdir⟩, ?_, Or.inl ⟨rfl, rfl⟩⟩
    rw [FileTree.content?_child hdir, Option.map_eq_none_iff]
    exact Option.isNone_iff_eq_none.1 (Option.isSome_eq_false_iff.1 (Bool.not_eq_true _ ▸ hsome))
  · cases h
  · next path above final hresolve hsplit =>
    cases hdir : tree.directory above with
    | error fault => rw [hdir] at h; cases h
    | ok inside =>
      rw [hdir] at h
      cases h
      rw [Path.append_of_split? hsplit]
      exact ⟨FileTree.directory_ok_iff_content?.1 ⟨inside, hdir⟩, resolve_error_content? hresolve,
        Or.inr rfl⟩
  · cases h

/-- The name at a destination is the one that the node had, or the last one of the target. -/
theorem name_of_destination (h : destination target name tree = .ok (parent, last)) :
    last = name ∨ last ∈ target := by
  obtain ⟨-, -, ⟨-, hname⟩ | htarget⟩ := destination_eq_ok h
  · exact Or.inl hname
  · rw [← htarget]
    exact Or.inr List.mem_concat_self

/-- A plan that was made says where the source is, what it is, and where it is to go. -/
theorem planTransfer_eq_ok (h : planTransfer source target tree = .ok plan) :
    source.split? = some (plan.sourceParent, plan.sourceName) ∧
      tree.resolve source = .ok plan.node ∧
      destination target plan.sourceName tree = .ok (plan.parent, plan.name) ∧
      ¬(plan.node.isDir = true ∧ source <+: plan.parent) := by
  unfold planTransfer at h
  split at h
  · cases h
  · next sourceParent sourceName hsplit =>
    cases hnode : tree.resolve source with
    | error fault => rw [hnode] at h; cases h
    | ok node =>
      cases hplace : destination target sourceName tree with
      | error fault => rw [hnode, hplace] at h; cases h
      | ok place =>
        rw [hnode, hplace] at h
        simp only [bind, Except.bind] at h
        split_ifs at h with hinside
        cases h
        rw [Bool.and_eq_true, Path.within, List.isPrefixOf_iff_prefix] at hinside
        exact ⟨hsplit, rfl, hplace, hinside⟩

theorem fits_of_planTransfer (h : planTransfer source target tree = .ok plan) :
    plan.Fits tree source := by
  obtain ⟨hsplit, hnode, hplace, hinside⟩ := planTransfer_eq_ok h
  have hat := FileTree.resolve_eq_ok_iff.1 hnode
  obtain ⟨hdir, hfree, -⟩ := destination_eq_ok hplace
  refine ⟨(Path.append_of_split? hsplit).symm, hat, hdir, hfree, fun hp => ?_⟩
  -- a directory is refused by the plan, and below a file there is no directory
  cases hkind : plan.node with
  | dir stamps inside => exact hinside ⟨by rw [hkind]; rfl, hp⟩
  | file stamps text =>
    obtain ⟨rest, hrest⟩ := hp
    have hfile : tree.content? source = some (.file text) := by
      rw [FileTree.content?, hat, hkind]; rfl
    rw [← hrest] at hdir
    cases rest with
    | nil => rw [List.append_nil, hfile] at hdir; cases hdir
    | cons first rest =>
      rw [FileTree.content?_append_eq_none (by simp [hfile]) (List.cons_ne_nil first rest)] at hdir
      cases hdir

theorem Transfer.Fits.content?_source (h : plan.Fits tree source) :
    tree.content? source ≠ none := by
  rw [FileTree.content?, h.at_source]
  exact Option.some_ne_none _

theorem Transfer.Fits.place_not_above (h : plan.Fits tree source) : ¬plan.place <+: source :=
  fun hp => h.content?_source (FileTree.content?_eq_none_of_prefix h.place_free hp)

theorem Transfer.Fits.place_outside (h : plan.Fits tree source) : ¬source <+: plan.place := by
  intro hp
  rcases List.prefix_concat_iff.1 hp with heq | hp
  · exact h.content?_source (heq ▸ h.place_free)
  · exact h.parent_outside hp

/-- A node can be added at the place of the plan. -/
theorem Transfer.Fits.outcome_addChild (h : plan.Fits tree source) (now : Nat) (node : Node) :
    (addChild now plan.parent plan.name node).outcome tree = .ok () :=
  outcome_addChild_eq_ok_iff.2 ⟨h.parent_dir, h.place_free⟩

/-- The source can be taken out. -/
theorem Transfer.Fits.outcome_removeChild (h : plan.Fits tree source) (now : Nat) :
    (removeChild now plan.sourceParent plan.sourceName).outcome tree = .ok () :=
  outcome_removeChild_eq_ok_iff.2 (h.source_eq ▸ h.content?_source)

/-- A node can be added at the place of the plan when the source has been taken out. -/
theorem Transfer.Fits.outcome_addChild_removed (h : plan.Fits tree source) (now later : Nat)
    (node : Node) :
    (addChild later plan.parent plan.name node).outcome
      (tree.amend plan.sourceParent (.relisted now (·.erase plan.sourceName))) = .ok () := by
  have hparent := h.source_eq ▸ h.parent_outside
  have hplace := h.source_eq ▸ h.place_outside
  rw [outcome_addChild_eq_ok_iff, FileTree.content?_erase_elsewhere hparent]
  exact ⟨h.parent_dir, (FileTree.content?_erase_elsewhere hplace now tree).trans h.place_free⟩

/-! ### The three edits -/

theorem outcome_copy (now : Nat) (source target : Path) (tree : FileTree) :
    (copy now source target).outcome tree =
      (planTransfer source target tree).map Transfer.place := by
  unfold copy
  rw [outcome_bind, outcome_ask, after_ask]
  cases hplan : planTransfer source target tree with
  | error fault => rfl
  | ok plan =>
    simp only [outcome_bind, (fits_of_planTransfer hplan).outcome_addChild]
    rfl

theorem after_copy (hplan : planTransfer source target tree = .ok plan) :
    (copy now source target).after tree =
      tree.amend plan.parent (.relisted now (·.push plan.name (plan.node.renewed now))) := by
  have hadd := (fits_of_planTransfer hplan).outcome_addChild now (plan.node.renewed now)
  unfold copy
  rw [after_bind, outcome_ask, after_ask, hplan]
  simp only [after_bind, hadd]
  exact after_addChild_of_ok hadd

theorem outcome_move (now : Nat) (source target : Path) (tree : FileTree) :
    (move now source target).outcome tree =
      (planTransfer source target tree).map Transfer.place := by
  unfold move
  rw [outcome_bind, outcome_ask, after_ask]
  cases hplan : planTransfer source target tree with
  | error fault => rfl
  | ok plan =>
    have hfits := fits_of_planTransfer hplan
    have hremove := hfits.outcome_removeChild now
    simp only [outcome_bind, hremove, after_removeChild_of_ok hremove,
      hfits.outcome_addChild_removed]
    rfl

theorem after_move (hplan : planTransfer source target tree = .ok plan) :
    (move now source target).after tree =
      (tree.amend plan.sourceParent (.relisted now (·.erase plan.sourceName))).amend plan.parent
        (.relisted now (·.push plan.name (plan.node.touched now))) := by
  have hfits := fits_of_planTransfer hplan
  have hremove := hfits.outcome_removeChild now
  have hadd := hfits.outcome_addChild_removed now now (plan.node.touched now)
  unfold move
  rw [after_bind, outcome_ask, after_ask, hplan]
  simp only [after_bind, hremove, after_removeChild_of_ok hremove, hadd]
  exact after_addChild_of_ok hadd

theorem Atomic.copy : Atomic (copy now source target) := by
  unfold Edit.copy
  refine Atomic.bind_quiet (fun _ => rfl) fun plan => ?_
  exact Atomic.bind_sure Atomic.addChild fun _ _ _ => ⟨_, rfl⟩

/-- A move that was planned does not fail any more. -/
theorem Atomic.move : Atomic (move now source target) := by
  intro tree fault h
  rw [outcome_move] at h
  cases hplan : planTransfer source target tree with
  | ok plan => rw [hplan] at h; cases h
  | error fault =>
    unfold Edit.move
    rw [after_bind, outcome_ask, hplan]
    rfl

/-- With `recursive`, whatever is there is removed. -/
theorem remove_recursive (now : Nat) (h : tree.content? (parent ++ [name]) ≠ none) :
    (remove now (parent ++ [name]) true).outcome tree = .ok () ∧
      (remove now (parent ++ [name]) true).after tree =
        tree.amend parent (.relisted now (·.erase name)) := by
  have hremove : (removeChild now parent name).outcome tree = .ok () :=
    outcome_removeChild_eq_ok_iff.2 h
  rw [← after_removeChild_of_ok hremove, ← hremove]
  unfold remove
  rw [Path.split?_append]
  simp only [outcome_bind, after_bind, outcome_ask, after_ask]
  cases hnode : tree.resolve (parent ++ [name]) with
  | error fault => exact absurd (resolve_error_content? hnode) h
  | ok node => cases node <;> simp

/-- After a copy, its source can be removed. -/
theorem Transfer.Fits.content?_source_of_push (h : plan.Fits tree source) (now : Nat)
    (node : Node) :
    (tree.amend plan.parent (.relisted now (·.push plan.name node))).content?
      (plan.sourceParent ++ [plan.sourceName]) ≠ none := by
  rw [FileTree.content?_push_elsewhere (h.source_eq ▸ h.place_not_above), ← h.source_eq]
  exact h.content?_source

end Edit

end Shellbox
