import Shellbox.Proofs.CommandEdits
import Shellbox.Proofs.LineRun
import Shellbox.Proofs.PackageChanges
/-!
# The working directory is always there

A session is settled if its working directory is a directory of its tree. A fresh session is
settled, since it stands at the root, and every command line leaves a settled session settled
(`Session.Settled.run`), so a session that is settled once stays so over any lines
(`Session.settled_of_mem_visited`).

What a command can do to a session is plain from its effect, and only two kinds of effects matter.
An edit of the tree must spare the working directory, and a move must lead from one directory of the
tree to another one (`Effect.Settles`). `cd` goes up to the parent, which is there as long as its
child is, or down to a child that it has looked up.
-/

namespace Shellbox

/-- The parent of a directory is a directory, and so is the root in place of its own parent. -/
theorem FileTree.content?_dropLast {tree : FileTree} {path : Path}
    (h : tree.content? path = some .dir) : tree.content? path.dropLast = some .dir := by
  by_cases hpath : path = []
  · rw [hpath]
    rfl
  · rw [← List.dropLast_append_getLast hpath] at h
    exact content?_of_append (List.cons_ne_nil _ []) (by rw [h]; simp)

namespace Shell

/-! ### Effects -/

/-- The working directory of a session is a directory of its tree. -/
def Session.Settled (session : Session) : Prop := session.tree.hasDir session.cwd = true

/-- An effect that leaves a settled session settled, said of what the effect may do: an edit spares
the working directory, a move leads from a directory to a directory, and the packages are managed
without the tree and the working directory. -/
def Effect.Settles : Effect → Prop
  | .edit change => ∀ now cwd args, Edit.Spares cwd (change now cwd args)
  | .move go => ∀ (tree : FileTree) cwd args, tree.content? cwd = some .dir →
      tree.content? (go tree cwd args).2 = some .dir
  | .manage change => ∀ args session,
      (change args session).2.tree = session.tree ∧ (change args session).2.cwd = session.cwd
  | .answer _ | .clear => True

/-- `cd` leads from a directory to a directory. -/
theorem content?_cd {tree : FileTree} {cwd : Path} (args : List String)
    (h : tree.content? cwd = some .dir) : tree.content? (cd tree cwd args).2 = some .dir := by
  obtain ⟨inside, hinside⟩ := FileTree.directory_ok_iff_content?.2 h
  cases args with
  | nil => rfl
  | cons target rest =>
    by_cases hup : target = ".."
    · simpa [cd, hup] using FileTree.content?_dropLast h
    · simp only [cd, hup, if_false, hinside]
      have hchild := FileTree.content?_child hinside target
      cases hname : inside.find? target with
      | none => exact h
      | some child =>
        cases child with
        | file stamps text => exact h
        | dir stamps below => rw [hchild, hname]; rfl

/-- `brew` changes neither the tree nor the working directory. -/
theorem brew_keeps (args : List String) (session : Session) :
    (brew args session).2.tree = session.tree ∧ (brew args session).2.cwd = session.cwd := by
  rw [brew_eq]
  exact ⟨session.tree_changed _, session.cwd_changed _⟩

/-- What any command does leaves a settled session settled. -/
theorem Action.settles (action : Action) : action.effect.Settles := by
  cases action with
  | provided package command => exact trivial
  | builtin command =>
    cases command with
    | touch => exact fun _ _ _ => spares_touch
    | mkdir => exact fun _ _ _ => spares_mkdir
    | rm => exact fun _ _ _ => spares_rm
    | cp => exact fun _ _ _ => spares_cp
    | mv => exact fun _ _ _ => spares_mv
    | echo => exact fun _ _ _ => spares_echo
    | cd => exact fun _ _ args h => content?_cd args h
    | brew => exact brew_keeps
    | _ => exact trivial

/-! ### Sessions -/

namespace Session

variable {session : Session}

theorem settled_iff : session.Settled ↔ session.tree.content? session.cwd = some .dir :=
  FileTree.hasDir_iff

/-- A session at its start is settled, whatever its files and packages are. -/
theorem settled_start (tree : FileTree) (catalog : Catalog) (user host : String) (clock : Moment) :
    (start tree catalog user host clock).Settled := settled_iff.2 rfl

theorem Settled.apply {effect : Effect} (h : session.Settled) (heffect : effect.Settles) (now : Nat)
    (args : List String) : (effect.apply now args session).2.Settled := by
  rw [settled_iff] at h ⊢
  cases effect with
  | answer reply => exact h
  | edit change => exact heffect now session.cwd args session.tree h
  | move go => exact heffect session.tree session.cwd args h
  | manage change =>
    obtain ⟨htree, hcwd⟩ := heffect args session
    simpa only [Effect.apply, htree, hcwd] using h
  | clear => exact h

theorem Settled.call (h : session.Settled) (now : Nat) (name : String) (args : List String)
    (command : Command) : (command.call now name args session).2.Settled := by
  rw [Command.call_snd]
  exact h.apply command.action.settles now args

/-- A command line leaves a settled session settled. -/
theorem Settled.run (h : session.Settled) (now : Nat) (line : String) :
    (session.run now line).2.Settled := by
  rcases session.command_cases line with hnone | ⟨name, command, hline, hfind⟩
  · obtain ⟨said, -, hrun⟩ := @run_of_none session now line hnone
    rw [hrun]
    exact h
  · have hcall := h.call now name (lineWords line).tail command
    rw [run_of_find? hline hfind]
    dsimp only
    split
    · exact hcall
    · exact hcall

/-- The sessions after each of a list of command lines, each run at its own time. -/
def visited (session : Session) : List (Nat × String) → List Session
  | [] => []
  | (now, line) :: rest =>
    let next := (session.run now line).2
    next :: next.visited rest

/-- **The working directory is always there.** A fresh session is settled, and from a settled
session on, whatever lines are run and at whatever times, the working directory is a directory of
the tree after each of them. -/
theorem settled_of_mem_visited (lines : List (Nat × String)) :
    (∀ tree catalog user host clock, (start tree catalog user host clock).Settled) ∧
      ∀ session : Session, session.Settled → ∀ later ∈ session.visited lines, later.Settled := by
  refine ⟨settled_start, fun session h => ?_⟩
  induction lines generalizing session with
  | nil => exact fun later hlater => absurd hlater List.not_mem_nil
  | cons entry rest ih =>
    have hnext := h.run entry.1 entry.2
    exact List.forall_mem_cons.2 ⟨hnext, ih _ hnext⟩

/-- A session goes down into a directory that two commands then fail to take away from it. -/
theorem documents_stay_around_session :
    let lines := [(1, "cd Documents"), (2, "rm -r ../Documents"), (3, "mv /Documents/. /old")]
    Session.default.Settled ∧
      (Session.default.visited lines).map (·.cwd) = List.replicate 3 ["Documents"] ∧
      ∀ later ∈ Session.default.visited lines, later.Settled := by
  intro lines
  have hstart : Session.default.Settled := rfl
  exact ⟨hstart, by decide +kernel, (settled_of_mem_visited lines).2 Session.default hstart⟩

end Session

end Shell
end Shellbox
