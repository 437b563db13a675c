import Shellbox.Proofs.Listings
import Shellbox.Proofs.TreePaths
/-!
# What is left after a removal

A removal finds a node and takes it out of the list of children above it. Seen from outside it takes
out paths: the path of the node and all that lie below it, component by component, and no other one.

The two agree where siblings have different names. Taking the first child of a name out then leaves
none of that name (`FileTree.WellNamed.content?_erase`), and the listing of its directory is the old
one without that name, in the old order (`FileTree.WellNamed.listed?_erase_eq_filter`). So a removal
in any tree that requests have made loses exactly the paths within its own
(`Operation.remove_loses_path`), if it is not refused: the root cannot be removed, nor what is not
there, nor a directory with children unless that is asked for (`Edit.outcome_remove_eq_ok_iff`).
-/

namespace Shellbox

namespace FileTree

/-- The tree `after` is the tree `before` without what it held at a path and below. -/
structure Loses (before after : FileTree) (path : Path) : Prop where
  /-- At the path and below there is nothing any more, and every other path holds what it held. -/
  content : ∀ other, after.content? other = if path <+: other then none else before.content? other
  /-- Every directory that is left lists its children in the order in which it listed them, except
  for the one at the path. -/
  order : ∀ other, ¬path <+: other → after.listed? other =
    (before.listed? other).map (·.filter fun name => other ++ [name] ≠ path)

namespace WellNamed

variable {tree : FileTree}

/-- Taking the child of a name out takes out the paths at and below it, and no other. -/
theorem content?_erase (h : tree.WellNamed) (now : Nat) (parent : Path) (name : String)
    (other : Path) :
    (tree.amend parent (.relisted now (·.erase name))).content? other =
      if parent ++ [name] <+: other then none else tree.content? other := by
  split_ifs with hbelow
  · obtain ⟨rest, rfl⟩ := hbelow
    rw [List.append_assoc, List.singleton_append,
      content?_amend_append (Node.isDir_relisted now _), Option.map_eq_none_iff]
    cases hat : tree.at? parent with
    | none => rfl
    | some node =>
      cases node with
      | file stamps text => rfl
      | dir stamps inside =>
        have hinside : inside.WellNamed := (h.of_at? hat).2
        have hgone : (inside.erase name).find? name = none := by
          rw [Entries.find?_eq_none_iff, Entries.names_erase]
          exact hinside.nodup_names.not_mem_erase
        simp [Node.relisted, hgone]
  · exact content?_erase_elsewhere hbelow now tree

/-- The listings that are left when the child of a name was taken out. -/
theorem listed?_erase_eq_filter (h : tree.WellNamed) (now : Nat) {parent other : Path}
    {name : String} (hleft : ¬parent ++ [name] <+: other) :
    (tree.amend parent (.relisted now (·.erase name))).listed? other =
      (tree.listed? other).map (·.filter fun child => other ++ [child] ≠ parent ++ [name]) := by
  by_cases hother : other = parent
  · subst hother
    rw [listed?_erase]
    cases hlisted : tree.listed? other with
    | none => rfl
    | some names =>
      rw [Option.map_some, Option.map_some, (h.nodup_of_listed? hlisted).erase_eq_filter]
      refine congrArg some (List.filter_congr fun child _ => ?_)
      rw [Bool.eq_iff_iff]
      simp
  · rw [listed?_erase_elsewhere hleft hother]
    cases tree.listed? other with
    | none => rfl
    | some names =>
      refine congrArg some (List.filter_eq_self.2 fun child _ => ?_).symm
      have hne : other ++ [child] ≠ parent ++ [name] := fun heq =>
        hother (List.append_inj_left' heq rfl)
      exact decide_eq_true hne

/-- Taking the child of a name out loses its path. -/
theorem loses_erase (h : tree.WellNamed) (now : Nat) (parent : Path) (name : String) :
    tree.Loses (tree.amend parent (.relisted now (·.erase name))) (parent ++ [name]) where
  content := h.content?_erase now parent name
  order _ := h.listed?_erase_eq_filter now

end WellNamed

end FileTree

namespace Edit

variable {now : Nat} {recursive : Bool} {parent path : Path} {name : String} {tree : FileTree}

/-- What is there is removed unless it is a directory with children and that was not asked for. -/
theorem outcome_remove_eq_ok_iff :
    (remove now path recursive).outcome tree = .ok () ↔
      path ≠ [] ∧ tree.content? path ≠ none ∧
        ((∃ text, tree.content? path = some (.file text)) ∨ tree.listed? path = some [] ∨
          recursive = true) := by
  rcases List.eq_nil_or_concat' path with rfl | ⟨parent, name, rfl⟩
  · exact ⟨fun h => (by cases h), fun h => absurd rfl h.1⟩
  have hchild := @outcome_removeChild_eq_ok_iff now parent name tree
  unfold remove
  rw [Path.split?_append]
  simp only [outcome_bind, outcome_ask, after_ask]
  cases hnode : tree.resolve (parent ++ [name]) with
  | error fault => simp [resolve_error_content? hnode]
  | ok node =>
    have hat := FileTree.resolve_eq_ok_iff.1 hnode
    have hcontent : tree.content? (parent ++ [name]) = some node.content := by
      rw [FileTree.content?, hat]
      rfl
    have hthere : (removeChild now parent name).outcome tree = .ok () := by
      rw [hchild, hcontent]
      exact Option.some_ne_none _
    cases node with
    | file stamps text => simp [hthere, hcontent, Node.content]
    | dir stamps inside =>
      have hlisted : tree.listed? (parent ++ [name]) = some inside.names := by
        rw [FileTree.listed?_eq, hat]
        rfl
      have hrefused : (!inside.isEmpty && !recursive) = true ↔
          ¬(inside.names = [] ∨ recursive = true) := by
        rw [← Entries.isEmpty_iff]
        cases inside.isEmpty <;> cases recursive <;> decide
      dsimp only
      by_cases hallowed : inside.names = [] ∨ recursive = true
      · rw [if_neg (mt hrefused.1 (not_not.2 hallowed))]
        simp [hthere, hcontent, hlisted, hallowed]
      · rw [if_pos (hrefused.2 hallowed)]
        simp [hcontent, hlisted, hallowed, Node.content]

/-- A removal that succeeds takes the child out. -/
theorem after_remove_of_ok (h : (remove now (parent ++ [name]) recursive).outcome tree = .ok ()) :
    (remove now (parent ++ [name]) recursive).after tree =
      tree.amend parent (.relisted now (·.erase name)) := by
  obtain ⟨-, hthere, -⟩ := outcome_remove_eq_ok_iff.1 h
  have hchild : (removeChild now parent name).outcome tree = .ok () :=
    outcome_removeChild_eq_ok_iff.2 hthere
  rw [← after_removeChild_of_ok hchild]
  unfold remove at h ⊢
  rw [Path.split?_append] at h ⊢
  simp only [outcome_bind, after_bind, outcome_ask, after_ask] at h ⊢
  cases hnode : tree.resolve (parent ++ [name]) with
  | error fault => rw [hnode] at h; cases h
  | ok node =>
    rw [hnode] at h
    cases node with
    | file stamps text => rfl
    | dir stamps inside =>
      dsimp only at h ⊢
      split_ifs at h ⊢ with hrefused
      · cases h
      · rfl

end Edit

namespace Operation

/-- **What a removal takes away.** In a tree that requests have made, a removal succeeds exactly if its
path is not the root and holds a file, an empty directory, or any directory where children are to be
removed as well. What is lost then are the path and all paths below it. Every other path holds what it
held, and every directory that is left lists its other children in the old order. -/
theorem remove_loses_path (requests : List Request) (now : Nat) (cwd path : String)
    (recursive : Bool) :
    let tree := FileTree.empty.afterRequests requests
    let place := Path.read cwd path
    let removal := (remove path recursive).perform now cwd
    (removal.outcome tree = .ok [] ↔ place ≠ [] ∧ tree.content? place ≠ none ∧
      ((∃ text, tree.content? place = some (.file text)) ∨ tree.listed? place = some [] ∨
        recursive = true)) ∧
      (removal.outcome tree = .ok [] → tree.Loses (removal.after tree) place) := by
  intro tree place removal
  have hempty : FileTree.empty.WellNamed := trivial
  have hwell : tree.WellNamed := hempty.afterRequests requests
  have hok : removal.outcome tree = .ok [] ↔ (Edit.remove now place recursive).outcome tree = .ok () := by
    simp only [removal, perform, Edit.outcome_bind, place]
    cases (Edit.remove now (Path.read cwd path) recursive).outcome tree <;> simp
  refine ⟨hok.trans Edit.outcome_remove_eq_ok_iff, fun h => ?_⟩
  have hremove := hok.1 h
  have hafter : removal.after tree = (Edit.remove now place recursive).after tree := by
    simp only [removal, perform, Edit.after_bind, place] at hremove ⊢
    rw [hremove]
    rfl
  rw [hafter]
  rcases List.eq_nil_or_concat' place with hroot | ⟨parent, name, hplace⟩
  · exact absurd hroot (Edit.outcome_remove_eq_ok_iff.1 hremove).1
  · rw [hplace] at hremove ⊢
    rw [Edit.after_remove_of_ok hremove]
    exact hwell.loses_erase now parent name

/-- A directory that is removed with the file in it, on a way that goes up: its neighbour whose name
goes on from its own stays. -/
theorem longer_name_survives_removal :
    let requests : List Request :=
      [⟨1, "/", .writeFile "a/x" "text" true⟩, ⟨2, "/", .writeFile "ab" "more" false⟩]
    let tree := FileTree.empty.afterRequests requests
    let removal := (remove "../a" true).perform 3 "/ab"
    removal.outcome tree = .ok [] ∧ (removal.after tree).content? ["a", "x"] = none ∧
      (removal.after tree).content? ["ab"] = some (.file "more") := by
  intro requests tree removal
  have hloses := remove_loses_path requests 3 "/ab" "../a" true
  have hok : removal.outcome tree = .ok [] := by decide +kernel
  have hlost := hloses.2 hok
  refine ⟨hok, (hlost.content ["a", "x"]).trans ?_, (hlost.content ["ab"]).trans ?_⟩
  · decide +kernel
  · decide +kernel

end Operation
end Shellbox
