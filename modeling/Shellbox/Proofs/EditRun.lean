import Shellbox.FileTree.Operation
import Shellbox.Proofs.ChangedTree
/-!
# Running an edit

An edit of a tree has an outcome and leaves a tree behind. The rules here take an edit apart along
its steps (`outcome_bind`, `after_bind`), so that no proof further on opens the monad.

That an edit which fails leaves the tree as it was (`Atomic`) is shown step by step as well: an edit
is atomic if its first step is, and nothing can fail after the first change. What all steps of an
edit keep, the whole edit keeps (`Preserves`).

The edits that change the list of children of one directory come last: `addChild` succeeds exactly
if its directory is there and the name is free (`outcome_addChild_eq_ok_iff`), `removeChild` exactly
if the child is there.
-/

namespace Shellbox
namespace Edit

variable {α β : Type}

/-- What an edit of a tree ends with. -/
def outcome (edit : Edit α) (tree : FileTree) : Except Fault α := (edit.run.run tree).1

/-- The tree that an edit leaves behind. -/
def after (edit : Edit α) (tree : FileTree) : FileTree := (edit.run.run tree).2

section Rules

variable (tree : FileTree)

@[simp] theorem outcome_pure (value : α) : outcome (pure value) tree = .ok value := rfl

@[simp] theorem after_pure (value : α) : after (pure value : Edit α) tree = tree := rfl

@[simp] theorem outcome_throw (fault : Fault) :
    outcome (throw fault : Edit α) tree = .error fault := rfl

@[simp] theorem after_throw (fault : Fault) : after (throw fault : Edit α) tree = tree := rfl

@[simp] theorem outcome_ask (question : FileTree → Except Fault α) :
    (ask question).outcome tree = question tree := rfl

@[simp] theorem after_ask (question : FileTree → Except Fault α) :
    (ask question).after tree = tree := rfl

@[simp] theorem outcome_get : outcome (get : Edit FileTree) tree = .ok tree := rfl

@[simp] theorem after_get : after (get : Edit FileTree) tree = tree := rfl

@[simp] theorem outcome_amend (path : Path) (change : Node → Node) :
    (amend path change).outcome tree = .ok () := rfl

@[simp] theorem after_amend (path : Path) (change : Node → Node) :
    (amend path change).after tree = tree.amend path change := rfl

/-- The outcome of an edit that goes on after another one. -/
theorem outcome_bind (edit : Edit α) (next : α → Edit β) :
    outcome (edit >>= next) tree =
      match edit.outcome tree with
      | .ok value => (next value).outcome (edit.after tree)
      | .error fault => .error fault := by
  unfold outcome after
  simp only [bind, ExceptT.bind, ExceptT.mk, ExceptT.run, StateT.bind, StateT.run, ExceptT.bindCont]
  cases edit tree with
  | mk result next => cases result <;> rfl

/-- The tree left behind by an edit that goes on after another one. -/
theorem after_bind (edit : Edit α) (next : α → Edit β) :
    after (edit >>= next) tree =
      match edit.outcome tree with
      | .ok value => (next value).after (edit.after tree)
      | .error _ => edit.after tree := by
  unfold outcome after
  simp only [bind, ExceptT.bind, ExceptT.mk, ExceptT.run, StateT.bind, StateT.run, ExceptT.bindCont]
  cases edit tree with
  | mk result next => cases result <;> rfl

/-- What goes on after an edit that succeeds runs on the tree that it left behind. -/
theorem run_bind_of_ok {edit : Edit α} {value : α} (h : edit.outcome tree = .ok value)
    (next : α → Edit β) : (edit >>= next).run.run tree = (next value).run.run (edit.after tree) := by
  have houtcome := outcome_bind tree edit next
  have hafter := after_bind tree edit next
  rw [h] at houtcome hafter
  exact Prod.ext houtcome hafter

/-- Nothing goes on after an edit that fails. -/
theorem run_bind_of_error {edit : Edit α} {fault : Fault} (h : edit.outcome tree = .error fault)
    (next : α → Edit β) : (edit >>= next).run.run tree = (.error fault, edit.after tree) := by
  have houtcome := outcome_bind tree edit next
  have hafter := after_bind tree edit next
  rw [h] at houtcome hafter
  exact Prod.ext houtcome hafter

@[simp] theorem outcome_map (f : α → β) (edit : Edit α) :
    outcome (f <$> edit) tree = (edit.outcome tree).map f := by
  rw [← bind_pure_comp, outcome_bind]
  cases edit.outcome tree <;> rfl

@[simp] theorem after_map (f : α → β) (edit : Edit α) :
    after (f <$> edit) tree = edit.after tree := by
  rw [← bind_pure_comp, after_bind]
  cases edit.outcome tree <;> rfl

end Rules

/-! ### Edits that fail without a trace -/

/-- An edit that fails leaves the tree as it was. -/
def Atomic (edit : Edit α) : Prop :=
  ∀ tree fault, edit.outcome tree = .error fault → edit.after tree = tree

theorem Atomic.pure (value : α) : Atomic (Pure.pure value) := fun _ _ h => by cases h

theorem Atomic.throw (fault : Fault) : Atomic (MonadExcept.throw fault : Edit α) := fun _ _ _ => rfl

/-- An edit is atomic if its first part is, and if what comes after that part can only fail when
nothing has been changed up to the failure. -/
theorem Atomic.bind {edit : Edit α} {next : α → Edit β} (hedit : Atomic edit)
    (hnext : ∀ tree value fault, edit.outcome tree = .ok value →
      (next value).outcome (edit.after tree) = .error fault →
        (next value).after (edit.after tree) = tree) :
    Atomic (edit >>= next) := by
  intro tree fault h
  rw [outcome_bind] at h
  rw [after_bind]
  cases hvalue : edit.outcome tree with
  | error fault => exact hedit tree fault hvalue
  | ok value =>
    rw [hvalue] at h
    exact hnext tree value fault hvalue h

/-- Questions that are asked before an atomic edit keep it atomic. -/
theorem Atomic.bind_quiet {edit : Edit α} {next : α → Edit β} (hquiet : ∀ tree, edit.after tree = tree)
    (hnext : ∀ value, Atomic (next value)) : Atomic (edit >>= next) := by
  refine Atomic.bind (fun tree _ _ => hquiet tree) fun tree value fault _ h => ?_
  rw [hquiet] at h ⊢
  exact hnext value tree fault h

/-- An atomic edit may be followed by anything that succeeds after it. -/
theorem Atomic.bind_sure {edit : Edit α} {next : α → Edit β} (hedit : Atomic edit)
    (hsure : ∀ tree value, edit.outcome tree = .ok value →
      ∃ result, (next value).outcome (edit.after tree) = .ok result) :
    Atomic (edit >>= next) := by
  refine Atomic.bind hedit fun tree value fault hvalue h => ?_
  obtain ⟨result, hresult⟩ := hsure tree value hvalue
  rw [hresult] at h
  cases h

/-! ### Edits that keep a property of the tree -/

section Preserves

variable {P : FileTree → Prop}

/-- A property of the tree that holds before the edit holds afterwards, whether the edit fails or
not. -/
def Preserves (P : FileTree → Prop) (edit : Edit α) : Prop := ∀ tree, P tree → P (edit.after tree)

theorem Preserves.quiet {edit : Edit α} (hquiet : ∀ tree, edit.after tree = tree) :
    Preserves P edit := fun tree h => by rw [hquiet]; exact h

theorem Preserves.pure (value : α) : Preserves P (Pure.pure value : Edit α) :=
  Preserves.quiet fun _ => rfl

theorem Preserves.throw (fault : Fault) : Preserves P (MonadExcept.throw fault : Edit α) :=
  Preserves.quiet fun _ => rfl

/-- An edit that fails without a trace keeps what it keeps when it succeeds. -/
theorem Preserves.of_atomic {edit : Edit α} (hatomic : Atomic edit)
    (hok : ∀ tree value, edit.outcome tree = .ok value → P tree → P (edit.after tree)) :
    Preserves P edit := by
  intro tree h
  cases houtcome : edit.outcome tree with
  | error fault => rw [hatomic tree fault houtcome]; exact h
  | ok value => exact hok tree value houtcome h

/-- An edit keeps a property if all its parts do. -/
theorem Preserves.bind {edit : Edit α} {next : α → Edit β} (hedit : Preserves P edit)
    (hnext : ∀ value, Preserves P (next value)) : Preserves P (edit >>= next) := by
  intro tree h
  rw [after_bind]
  cases edit.outcome tree with
  | error fault => exact hedit tree h
  | ok value => exact hnext value _ (hedit tree h)

/-- After a question, only the answers that a tree with the property can give matter. -/
theorem Preserves.bind_ask {question : FileTree → Except Fault α} {next : α → Edit β}
    (hnext : ∀ tree value, question tree = .ok value → P tree → Preserves P (next value)) :
    Preserves P (ask question >>= next) := by
  intro tree h
  rw [after_bind, outcome_ask, after_ask]
  cases hvalue : question tree with
  | error fault => exact h
  | ok value => exact hnext tree value hvalue h tree h

end Preserves

/-! ### Adding and removing a child -/

/-- Changes the list of children of a directory unless something speaks against it. -/
def relist (now : Nat) (parent : Path) (refused : Entries → Bool) (fault : Fault)
    (change : Entries → Entries) : Edit Unit := do
  let inside ← ask (·.directory parent)
  if refused inside then throw fault
  amend parent (.relisted now change)

section Children

variable {now : Nat} {parent : Path} {name : String} {node : Node} {tree : FileTree}
  {refused : Entries → Bool} {fault : Fault} {change : Entries → Entries}

theorem outcome_relist_eq_ok_iff :
    (relist now parent refused fault change).outcome tree = .ok () ↔
      ∃ inside, tree.directory parent = .ok inside ∧ refused inside = false := by
  unfold relist
  rw [outcome_bind, outcome_ask, after_ask]
  cases tree.directory parent with
  | error fault => simp
  | ok inside => cases h : refused inside <;> simp [h]

theorem after_relist_of_ok (h : (relist now parent refused fault change).outcome tree = .ok ()) :
    (relist now parent refused fault change).after tree =
      tree.amend parent (.relisted now change) := by
  obtain ⟨inside, hdir, hfine⟩ := outcome_relist_eq_ok_iff.1 h
  unfold relist
  rw [after_bind, outcome_ask, hdir]
  simp [hfine]

theorem Atomic.relist : Atomic (relist now parent refused fault change) := by
  unfold Edit.relist
  refine Atomic.bind_quiet (fun _ => rfl) fun inside => ?_
  cases h : refused inside with
  | true => exact fun tree fault _ => by simp
  | false => exact fun tree fault herror => by simp at herror

theorem addChild_eq_relist :
    addChild now parent name node =
      relist now parent (fun inside => (inside.find? name).isSome) (.occupied (parent ++ [name]))
        (·.push name node) := rfl

theorem removeChild_eq_relist :
    removeChild now parent name =
      relist now parent (fun inside => (inside.find? name).isNone) (.missing (parent ++ [name]))
        (·.erase name) := rfl

/-- A child is added exactly if the directory is there and has no child of the name. -/
theorem outcome_addChild_eq_ok_iff :
    (addChild now parent name node).outcome tree = .ok () ↔
      tree.content? parent = some .dir ∧ tree.content? (parent ++ [name]) = none := by
  rw [addChild_eq_relist, outcome_relist_eq_ok_iff, ← FileTree.directory_ok_iff_content?]
  constructor
  · rintro ⟨inside, hdir, hfree⟩
    refine ⟨⟨inside, hdir⟩, ?_⟩
    rw [FileTree.content?_child hdir, Option.map_eq_none_iff]
    exact Option.isNone_iff_eq_none.1 (Option.isSome_eq_false_iff.1 hfree)
  · rintro ⟨⟨inside, hdir⟩, hfree⟩
    rw [FileTree.content?_child hdir, Option.map_eq_none_iff] at hfree
    exact ⟨inside, hdir, by rw [hfree]; rfl⟩

/-- A child is removed exactly if it is there. -/
theorem outcome_removeChild_eq_ok_iff :
    (removeChild now parent name).outcome tree = .ok () ↔
      tree.content? (parent ++ [name]) ≠ none := by
  rw [removeChild_eq_relist, outcome_relist_eq_ok_iff]
  constructor
  · rintro ⟨inside, hdir, hthere⟩
    rw [FileTree.content?_child hdir, Ne, Option.map_eq_none_iff]
    intro hnone
    rw [hnone] at hthere
    cases hthere
  · intro hthere
    obtain ⟨inside, hdir⟩ := FileTree.directory_ok_iff_content?.2
      (FileTree.content?_of_append (List.cons_ne_nil name []) hthere)
    rw [FileTree.content?_child hdir, Ne, Option.map_eq_none_iff] at hthere
    exact ⟨inside, hdir, Option.isNone_eq_false_iff.2 (Option.isSome_iff_ne_none.2 hthere)⟩

/-- A child that is added comes behind the others. -/
theorem after_addChild_of_ok (h : (addChild now parent name node).outcome tree = .ok ()) :
    (addChild now parent name node).after tree =
      tree.amend parent (.relisted now (·.push name node)) :=
  after_relist_of_ok h

theorem after_removeChild_of_ok (h : (removeChild now parent name).outcome tree = .ok ()) :
    (removeChild now parent name).after tree = tree.amend parent (.relisted now (·.erase name)) :=
  after_relist_of_ok h

theorem Atomic.addChild : Atomic (addChild now parent name node) := Atomic.relist

theorem Atomic.removeChild : Atomic (removeChild now parent name) := Atomic.relist

end Children

end Edit
end Shellbox
