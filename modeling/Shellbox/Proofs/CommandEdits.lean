import Shellbox.Proofs.Sparing
import Shellbox.Shell.Dispatch
/-!
# What the file commands keep

A command on files calls one kind of edit, once or for each of its operands, and a property of the
tree that is kept by these edits is kept by the command (`preserves_touch` and its neighbours). What a
command says about a failure never changes what has been done (`after_orSay`).

So `touch`, `mkdir`, `cp` and `echo` spare every directory, wherever they are called. `rm` and `mv`
spare the working directory in which they are called: both refuse a source that the working
directory is at or below, and the path that they compare is the very path that the edit then works
on, so that `.`, `..` and doubled slashes in the text of the source make no difference.
-/

namespace Shellbox.Shell

variable {now : Nat} {cwd path : Path} {args lines : List String} {parents : Bool}

/-- What is put out for the outcome of an edit that a command made. -/
def putOut (name : String) : Except Fault String → String
  | .ok output => output
  | .error cause => (Failure.fault cause).output name

/-- Calling a command that edits the tree is running the edit on the tree of the session. -/
theorem Command.call_of_edit {command : Command} {change : Nat → Path → List String → Edit String}
    (h : command.action.effect = .edit change) (now : Nat) (name : String) (args : List String)
    (session : Session) :
    command.call now name args session =
      (putOut name ((change now session.cwd args).outcome session.tree),
        { session with tree := (change now session.cwd args).after session.tree }) := by
  unfold call Edit.outcome Edit.after
  rw [h, Effect.apply]
  generalize (change now session.cwd args).run.run session.tree = ended
  obtain ⟨outcome, left⟩ := ended
  cases outcome <;> rfl

/-- Calling a command that moves the working directory is moving it. -/
theorem Command.call_of_move {command : Command}
    {go : FileTree → Path → List String → Except Fault String × Path}
    (h : command.action.effect = .move go) (now : Nat) (name : String) (args : List String)
    (session : Session) :
    command.call now name args session =
      (putOut name (go session.tree session.cwd args).1,
        { session with cwd := (go session.tree session.cwd args).2 }) := by
  unfold call
  rw [h, Effect.apply]
  generalize go session.tree session.cwd args = ended
  obtain ⟨outcome, cwd⟩ := ended
  cases outcome <;> rfl

/-- Calling a command that has an answer gives the answer and changes nothing. -/
theorem Command.call_of_answer {command : Command} {session : Session} {output : String}
    {reply : Session → List String → Except Failure String}
    (h : command.action.effect = .answer reply) (hreply : reply session args = .ok output) (now : Nat)
    (name : String) : command.call now name args session = (output, session) := by
  unfold call
  rw [h, Effect.apply, hreply]

/-- Calling a command that looks something up in the tree changes nothing. -/
theorem Command.call_of_look {command : Command}
    {reply : FileTree → Path → List String → Except Fault String}
    (h : command.action.effect = .look reply) (now : Nat) (name : String) (args : List String)
    (session : Session) :
    command.call now name args session =
      (putOut name (reply session.tree session.cwd args), session) := by
  unfold call
  rw [h, Effect.look, Effect.apply]
  cases reply session.tree session.cwd args <;> rfl

/-- The words for a failure take its place, if there are any. -/
theorem outcome_orSay (words : Fault → Option String) (edit : Edit String) (tree : FileTree) :
    (orSay words edit).outcome tree =
      match edit.outcome tree with
      | .ok output => .ok output
      | .error cause =>
        match words cause with
        | some line => .ok line
        | none => .error cause := by
  unfold orSay Edit.outcome
  simp only [ExceptT.mk, ExceptT.run, StateT.run, bind, StateT.bind]
  cases edit tree with
  | mk result left =>
    cases result with
    | ok output => rfl
    | error cause =>
      dsimp only
      cases words cause <;> rfl

/-- Saying something about a failure does not change what has been done. -/
theorem after_orSay (words : Fault → Option String) (edit : Edit String) (tree : FileTree) :
    (orSay words edit).after tree = edit.after tree := by
  unfold orSay Edit.after
  simp only [ExceptT.mk, ExceptT.run, StateT.run, bind, StateT.bind]
  cases edit tree with
  | mk result left =>
    cases result with
    | ok output => rfl
    | error cause =>
      dsimp only
      cases words cause <;> rfl

/-- Either all items are as they should be, or there is a first one that is not. -/
theorem forall_or_exists_first {α : Type} (P : α → Prop) [DecidablePred P] (items : List α) :
    (∀ item ∈ items, P item) ∨
      ∃ before item after, items = before ++ item :: after ∧ ¬P item ∧ ∀ other ∈ before, P other := by
  cases hfind : items.find? fun item => ¬P item with
  | none => exact Or.inl fun item hitem => by simpa using List.find?_eq_none.1 hfind item hitem
  | some item =>
    obtain ⟨hitem, before, after, hsplit, hbefore⟩ := List.find?_eq_some_iff_append.1 hfind
    refine Or.inr ⟨before, item, after, hsplit, of_decide_eq_true hitem, fun other hother => ?_⟩
    simpa using hbefore other hother

/-! ### Any property of the tree -/

section Preserves

variable {P : FileTree → Prop}

theorem preserves_orSay {words : Fault → Option String} {edit : Edit String}
    (h : Edit.Preserves P edit) : Edit.Preserves P (orSay words edit) := by
  intro tree htree
  rw [after_orSay]
  exact h tree htree

theorem preserves_touchEach
    (h : ∀ operand, Edit.Preserves P (Edit.touch now (Path.readFrom cwd operand)))
    (created : List String) : Edit.Preserves P (touchEach now cwd created lines) := by
  induction lines generalizing created with
  | nil => exact Edit.Preserves.pure _
  | cons operand rest ih =>
    refine Edit.Preserves.bind (Edit.Preserves.quiet fun _ => rfl) fun tree => ?_
    exact Edit.Preserves.bind (h operand) fun _ => ih _

theorem preserves_touch
    (h : ∀ operand, Edit.Preserves P (Edit.touch now (Path.readFrom cwd operand))) :
    Edit.Preserves P (touch now cwd args) := by
  unfold touch
  split
  · exact Edit.Preserves.pure _
  · exact preserves_touchEach h []

theorem preserves_mkdirEach
    (h : ∀ operand, Edit.Preserves P (Edit.mkdir now (Path.readFrom cwd operand) parents false))
    (said : List String) : Edit.Preserves P (mkdirEach now cwd parents said lines) := by
  induction lines generalizing said with
  | nil => exact Edit.Preserves.pure _
  | cons operand rest ih =>
    have hmake : Edit.Preserves P (do
        let line ← orSay (mkdirWords operand) do
          let _ ← Edit.mkdir now (Path.readFrom cwd operand) parents false
          return "Directory created: " ++ operand
        mkdirEach now cwd parents (line :: said) rest) :=
      Edit.Preserves.bind (preserves_orSay (Edit.Preserves.bind (h operand) fun _ =>
        Edit.Preserves.pure _)) fun line => ih _
    unfold mkdirEach
    refine Edit.Preserves.bind (Edit.Preserves.quiet fun _ => rfl) fun tree => ?_
    split
    · exact ih said
    · exact hmake

theorem preserves_mkdir
    (h : ∀ parents operand,
      Edit.Preserves P (Edit.mkdir now (Path.readFrom cwd operand) parents false)) :
    Edit.Preserves P (mkdir now cwd args) := by
  unfold mkdir
  dsimp only
  split
  · exact Edit.Preserves.pure _
  · exact preserves_mkdirEach (h _) []

theorem preserves_cp
    (h : ∀ source target, Edit.Preserves P
      (Edit.copy now (Path.readFrom cwd source) (Path.readFrom cwd target))) :
    Edit.Preserves P (cp now cwd args) := by
  unfold cp
  split
  · exact Edit.Preserves.pure _
  · exact preserves_orSay (Edit.Preserves.bind (h _ _) fun _ => Edit.Preserves.pure _)

theorem preserves_echo
    (h : ∀ operand text, Edit.Preserves P
      (Edit.writeFile now (Path.readFrom cwd operand) text false)) :
    Edit.Preserves P (echo now cwd args) := by
  unfold echo
  split
  · exact Edit.Preserves.pure _
  · exact Edit.Preserves.pure _
  · exact preserves_orSay (Edit.Preserves.bind (h _ _) fun _ => Edit.Preserves.pure _)

theorem not_prefix_of_holdsCwd {text : String} (h : ¬Session.holdsCwd cwd text) :
    ¬Path.readFrom cwd text <+: cwd := by
  rwa [Session.holdsCwd, Path.within, List.isPrefixOf_iff_prefix] at h

/-- `rm` removes nothing that the working directory is at or below. -/
theorem preserves_rm
    (h : ∀ operand recursive, ¬Path.readFrom cwd operand <+: cwd →
      Edit.Preserves P (Edit.remove now (Path.readFrom cwd operand) recursive)) :
    Edit.Preserves P (rm now cwd args) := by
  unfold rm
  split
  · exact Edit.Preserves.pure _
  · next target _ =>
    dsimp only
    split
    · exact Edit.Preserves.pure _
    · split
      · exact Edit.Preserves.pure _
      · next hholds =>
        have houtside := not_prefix_of_holdsCwd hholds
        exact preserves_orSay (Edit.Preserves.bind (h _ _ houtside) fun _ => Edit.Preserves.pure _)

/-- `mv` moves nothing that the working directory is at or below. -/
theorem preserves_mv
    (h : ∀ source target, ¬Path.readFrom cwd source <+: cwd → Edit.Preserves P
      (Edit.move now (Path.readFrom cwd source) (Path.readFrom cwd target))) :
    Edit.Preserves P (mv now cwd args) := by
  unfold mv
  split
  · exact Edit.Preserves.pure _
  · next source target _ =>
    split
    · exact Edit.Preserves.pure _
    · next hholds =>
      have houtside := not_prefix_of_holdsCwd hholds
      exact preserves_orSay (Edit.Preserves.bind (h _ _ houtside) fun _ => Edit.Preserves.pure _)

end Preserves

/-! ### Directories -/

theorem spares_touch : Edit.Spares path (touch now cwd args) :=
  preserves_touch fun _ => Edit.Spares.touch

theorem spares_mkdir : Edit.Spares path (mkdir now cwd args) :=
  preserves_mkdir fun _ _ => Edit.Spares.mkdir

theorem spares_cp : Edit.Spares path (cp now cwd args) :=
  preserves_cp fun _ _ => Edit.Spares.copy

theorem spares_echo : Edit.Spares path (echo now cwd args) :=
  preserves_echo fun _ _ => Edit.Spares.writeFile

/-- `rm` spares the working directory in which it is called. -/
theorem spares_rm : Edit.Spares cwd (rm now cwd args) :=
  preserves_rm fun _ _ houtside => Edit.Spares.remove houtside

/-- `mv` spares the working directory in which it is called. -/
theorem spares_mv : Edit.Spares cwd (mv now cwd args) :=
  preserves_mv fun _ _ houtside => Edit.Spares.move houtside

end Shellbox.Shell
