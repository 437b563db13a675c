import Shellbox.Proofs.CommandScope
import Shellbox.Proofs.WellNamed
import Shellbox.Proofs.WorkingDirectory
/-!
# The names that a session works with

A session is named if its tree is well named and its working directory is a path of proper names that
hold no line feed. A fresh session over a well-named tree is named, for it stands at the root, and
every command line leaves a named session named (`Session.Named.run`).

The commands that edit the tree read the paths of their edits from texts, in the working directory, so
these are paths of proper names, and their edits keep the tree well named. `cd` goes down by a child
that it found, whose name is proper since the tree is well named, and which is a word of the line, so
that there is no blank in it.
-/

namespace Shellbox.Shell

/-- The names of the tree and of the working directory are as they should be. -/
structure Session.Named (session : Session) : Prop where
  /-- In every directory of the tree the children have proper and different names. -/
  tree : session.tree.WellNamed
  /-- The components of the working directory are proper names. -/
  cwd : ∀ name ∈ session.cwd, Edit.isName name
  /-- None of them holds a line feed. -/
  unbroken : ∀ name ∈ session.cwd, '\n' ∉ name.toList

/-- An effect that leaves a named session named, said of what the effect may do. -/
def Effect.KeepsNames : Effect → Prop
  | .edit change => ∀ now cwd args, (∀ name ∈ cwd, Edit.isName name) →
      Edit.Preserves FileTree.WellNamed (change now cwd args)
  | .move go => ∀ session : Session, session.Named →
      ∀ args : List String, (∀ arg ∈ args, '\n' ∉ arg.toList) →
        Session.Named { session with cwd := (go session.tree session.cwd args).2 }
  | .manage change => ∀ args session,
      (change args session).2.tree = session.tree ∧ (change args session).2.cwd = session.cwd
  | .answer _ | .clear => True

/-- `cd` goes to the root, up, or down by a proper name that is a word of the line. -/
theorem Session.Named.cd {session : Session} (h : session.Named) {args : List String}
    (hargs : ∀ arg ∈ args, '\n' ∉ arg.toList) :
    Session.Named { session with cwd := (Shell.cd session.tree session.cwd args).2 } := by
  have hsub : ∀ {path : Path}, path ⊆ session.cwd → Session.Named { session with cwd := path } :=
    fun hpath => ⟨h.tree, fun name hname => h.cwd name (hpath hname),
      fun name hname => h.unbroken name (hpath hname)⟩
  unfold Shell.cd
  split
  · exact hsub (List.nil_subset _)
  · next target rest =>
    split_ifs
    · exact hsub (List.dropLast_subset _)
    · split
      · exact h
      · next inside hdir =>
        split
        · next stamps below hchild =>
          obtain ⟨_, hat⟩ := FileTree.directory_eq_ok_iff.1 hdir
          have hinside : inside.WellNamed := (h.tree.of_at? hat).2
          have htarget : Edit.isName target := (hinside.of_find? hchild).1
          have hword : '\n' ∉ target.toList := hargs target List.mem_cons_self
          refine ⟨h.tree, ?_, ?_⟩
          · exact List.forall_mem_append.2 ⟨h.cwd, List.forall_mem_singleton.2 htarget⟩
          · exact List.forall_mem_append.2 ⟨h.unbroken, List.forall_mem_singleton.2 hword⟩
        · exact h

/-- What any command does leaves a named session named. -/
theorem Action.keepsNames (action : Action) : action.effect.KeepsNames := by
  have hread : ∀ {cwd : Path}, (∀ name ∈ cwd, Edit.isName name) →
      ∀ text, ∀ name ∈ Path.readFrom cwd text, Edit.isName name := fun hcwd =>
    Path.isName_of_mem_readFrom hcwd
  cases action with
  | provided package command => exact trivial
  | builtin command =>
    cases command with
    | touch => exact fun _ _ _ hcwd => preserves_touch fun _ => Edit.preserves_touch (hread hcwd _)
    | mkdir => exact fun _ _ _ hcwd => preserves_mkdir fun _ _ => Edit.preserves_mkdir (hread hcwd _)
    | rm => exact fun _ _ _ _ => preserves_rm fun _ _ _ => Edit.preserves_remove
    | cp => exact fun _ _ _ hcwd => preserves_cp fun _ _ => Edit.preserves_copy (hread hcwd _)
    | mv => exact fun _ _ _ hcwd => preserves_mv fun _ _ _ => Edit.preserves_move (hread hcwd _)
    | echo =>
      exact fun _ _ _ hcwd => preserves_echo fun _ _ => Edit.preserves_writeFile (hread hcwd _)
    | cd => exact fun session h args hargs => h.cd hargs
    | brew => exact brew_keeps
    | _ => exact trivial

/-- No word of a line holds a line feed. -/
theorem not_mem_newline_of_mem_lineWords {line word : String} (h : word ∈ lineWords line) :
    '\n' ∉ word.toList := by
  obtain ⟨letters, hletters, rfl⟩ := List.mem_map.1 h
  rw [String.toList_ofList]
  intro hmem
  have hblank : Text.isBlank '\n' = true := by decide
  rw [Text.not_isBlank_of_mem_words hletters hmem] at hblank
  cases hblank

namespace Session

variable {session : Session}

/-- A session at its start is named if its tree is, whatever its packages are. -/
theorem named_start {tree : FileTree} (h : tree.WellNamed) (catalog : Catalog) (user host : String)
    (clock : Moment) : (start tree catalog user host clock).Named :=
  ⟨h, fun _ hname => absurd hname List.not_mem_nil, fun _ hname => absurd hname List.not_mem_nil⟩

theorem Named.apply {effect : Effect} (h : session.Named) (heffect : effect.KeepsNames) (now : Nat)
    {args : List String} (hargs : ∀ arg ∈ args, '\n' ∉ arg.toList) :
    (effect.apply now args session).2.Named := by
  cases effect with
  | answer reply => exact h
  | edit change => exact ⟨heffect now session.cwd args h.cwd session.tree h.tree, h.cwd, h.unbroken⟩
  | move go => exact heffect session h args hargs
  | manage change =>
    obtain ⟨htree, hcwd⟩ := heffect args session
    refine ⟨?_, ?_, ?_⟩
    · rw [Effect.apply, htree]
      exact h.tree
    · rw [Effect.apply, hcwd]
      exact h.cwd
    · rw [Effect.apply, hcwd]
      exact h.unbroken
  | clear => exact ⟨h.tree, h.cwd, h.unbroken⟩

theorem Named.record (h : session.Named) (lines : List String) : (session.record lines).Named :=
  ⟨h.tree, h.cwd, h.unbroken⟩

/-- A command line leaves a named session named. -/
theorem Named.run (h : session.Named) (now : Nat) (line : String) :
    (session.run now line).2.Named := by
  rcases session.command_cases line with hnone | ⟨name, command, hline, hfind⟩
  · rw [run_of_missing hnone]
    exact h.record _
  · have hargs : ∀ arg ∈ (lineWords line).tail, '\n' ∉ arg.toList := fun arg harg =>
      not_mem_newline_of_mem_lineWords (List.mem_of_mem_tail harg)
    have hcall : (command.call now name (lineWords line).tail session).2.Named := by
      rw [Command.call_snd]
      exact h.apply command.action.keepsNames now hargs
    rw [run_of_find? hline hfind]
    dsimp only
    split
    · exact hcall.record _
    · exact hcall

/-- **A session that is named stays named**, whatever lines are run and at whatever times. -/
theorem Named.afterLines (h : session.Named) (lines : List (Nat × String)) :
    (session.afterLines lines).Named := by
  induction lines generalizing session with
  | nil => exact h
  | cons entry rest ih =>
    rw [afterLines_cons]
    exact ih (h.run entry.1 entry.2)

end Session

end Shellbox.Shell
