import Shellbox.Proofs.CommandEdits
import Shellbox.Proofs.PathReading
import Shellbox.Proofs.Removal
import Shellbox.Proofs.WorkingDirectory
/-!
# The guard of the working directory

Before anything is taken away it is asked whether the working directory would go with it. The question is
answered by the names of the two paths alone (`Session.holdsCwd_iff`), without a look at the tree.

The answer is exact. What is removed is lost with the paths whose names start with its own, and with no
other (`Edit.loses_remove`). So the working directory is lost if the guard says so. If not, it is still
a directory, and holds what it held but for what was removed (`Session.holdsCwd_exact`).
-/

namespace Shellbox

open FileTree

/-- Everything that is there, the root apart, can be removed with all that it holds. -/
theorem Edit.outcome_remove_all {tree : FileTree} {path : Path} (hroot : path ≠ [])
    (hthere : tree.content? path ≠ none) (now : Nat) :
    (Edit.remove now path true).outcome tree = .ok () :=
  outcome_remove_eq_ok_iff.2 ⟨hroot, hthere, Or.inr (Or.inr rfl)⟩

/-- A removal that succeeds loses its path. -/
theorem Edit.loses_remove {tree : FileTree} {path : Path} {recursive : Bool} {now : Nat}
    (hwell : tree.WellNamed) (h : (Edit.remove now path recursive).outcome tree = .ok ()) :
    tree.Loses ((Edit.remove now path recursive).after tree) path := by
  rcases List.eq_nil_or_concat' path with rfl | ⟨parent, name, rfl⟩
  · exact absurd rfl (outcome_remove_eq_ok_iff.1 h).1
  · rw [after_remove_of_ok h]
    exact hwell.loses_erase now parent name

namespace Shell.Session

variable {session : Session} {text : String}

/-- The guard compares names. -/
theorem holdsCwd_iff : holdsCwd session.cwd text = true ↔ session.locate text <+: session.cwd :=
  List.isPrefixOf_iff_prefix

/-- The working directory, taken as a text, is read as the path that it is. -/
theorem read_cwd (hwell : session.tree.WellNamed) (hsettled : session.Settled) :
    Path.read session.cwd.render (some text) = session.locate text := by
  obtain ⟨node, hat, -⟩ := Option.map_eq_some_iff.1 (settled_iff.1 hsettled)
  exact Path.read_from_render (hwell.of_at? hat).1 text

/-- **The guard is exact.** In a settled session, let a text mean a path that is there and is not the
root. Then the path can be removed with all that it holds. The guard says that the working directory
would go with it exactly if the working directory is not there afterwards. If the guard says that it
stays, it is a directory afterwards, and everything is as it was but for the path and what was below. -/
theorem holdsCwd_exact (hwell : session.tree.WellNamed) (hsettled : session.Settled)
    (hroot : session.locate text ≠ []) (hthere : session.tree.holds (session.locate text) = true)
    (now : Nat) :
    let removal := (Operation.remove text true).perform now session.cwd.render
    let after := removal.after session.tree
    removal.outcome session.tree = .ok [] ∧
      (holdsCwd session.cwd text = true ↔ after.holds session.cwd = false) ∧
      (holdsCwd session.cwd text = false →
        after.hasDir session.cwd = true ∧ session.tree.Loses after (session.locate text)) := by
  intro removal after
  have hok : (Edit.remove now (session.locate text) true).outcome session.tree = .ok () :=
    Edit.outcome_remove_all hroot (holds_iff_content?.1 hthere) now
  have hremoval : removal.outcome session.tree = .ok [] ∧
      after = (Edit.remove now (session.locate text) true).after session.tree := by
    simp only [after, removal, Operation.perform, read_cwd hwell hsettled, Edit.outcome_bind,
      Edit.after_bind]
    rw [hok]
    exact ⟨rfl, rfl⟩
  have hlost : session.tree.Loses after (session.locate text) := by
    rw [hremoval.2]
    exact Edit.loses_remove hwell hok
  have hcwd := hlost.content session.cwd
  rw [settled_iff.1 hsettled] at hcwd
  refine ⟨hremoval.1, ?_, fun hstays => ?_⟩
  · rw [holdsCwd_iff, ← Bool.not_eq_true, holds_iff_content?, not_not, hcwd]
    split_ifs with hbelow
    · exact iff_of_true hbelow rfl
    · exact iff_of_false hbelow not_false
  · have hoff : ¬session.locate text <+: session.cwd := by
      rw [← holdsCwd_iff, hstays]
      exact Bool.false_ne_true
    exact ⟨hasDir_iff.2 (hcwd.trans (if_neg hoff)), hlost⟩

/-- In the directory `ab`, the directory `a` beside it can be removed: the name goes on, the path does
not. -/
theorem longer_name_is_not_guarded :
    let requests : List Request :=
      [⟨1, "/", .writeFile "a/x" "text" true⟩, ⟨2, "/", .writeFile "ab/y" "more" true⟩]
    let session := { default with tree := FileTree.empty.afterRequests requests, cwd := ["ab"] }
    let after := ((Operation.remove "../a" true).perform 3 session.cwd.render).after session.tree
    holdsCwd session.cwd "../a" = false ∧ after.holds ["a", "x"] = false ∧
      after.hasDir session.cwd = true ∧ after.content? ["ab", "y"] = some (.file "more") := by
  intro requests session after
  have hempty : FileTree.empty.WellNamed := trivial
  have hwell : session.tree.WellNamed := hempty.afterRequests requests
  have hdir : session.tree.hasDir session.cwd = true := by decide +kernel
  have hroot : session.locate "../a" ≠ [] := by decide +kernel
  have hthere : session.tree.holds (session.locate "../a") = true := by decide +kernel
  have hstays : holdsCwd session.cwd "../a" = false := by decide +kernel
  obtain ⟨hkept, hlost⟩ := (holdsCwd_exact hwell hdir hroot hthere 3).2.2 hstays
  refine ⟨hstays, ?_, hkept, (hlost.content ["ab", "y"]).trans ?_⟩
  · rw [← Bool.not_eq_true, holds_iff_content?, not_not]
    exact (hlost.content ["a", "x"]).trans (by decide +kernel)
  · decide +kernel

end Shell.Session
end Shellbox
