import Shellbox.Proofs.LineRun
import Shellbox.Proofs.PackageChanges
/-!
# Which command may change what

A session has parts that have nothing to do with each other: the file tree, the working directory,
the packages with their commands, and the history. A line reaches the first three only through the
command that it names, and each of them only through few commands (`Session.Confined`): the tree
through those that edit files, the working directory through `cd`, the packages through `brew`.
Whatever the packages claim, these names stand for the built-in commands, and the commands of
packages change nothing at all.

Every line enters the history with what it answers, but for `clear`, which empties it
(`Session.run_history`). So the history is what has been answered since the last `clear`, and
`Session.scope_of_lines` says so of any number of lines.
-/

namespace Shellbox.Shell

/-- What a call of the command of a name leaves alone. -/
structure Session.Confined (name : Option String) (before after : Session) : Prop where
  /-- The tree with all its stamps, unless the command edits files. -/
  tree : (∀ edit ∈ ["touch", "mkdir", "rm", "cp", "mv", "echo"], name ≠ some edit) →
    after.tree = before.tree
  /-- The working directory, unless the command moves it. -/
  cwd : name ≠ some "cd" → after.cwd = before.cwd
  /-- The packages and the command table, unless the command manages packages. -/
  packages : name ≠ some "brew" → after.catalog = before.catalog ∧ after.table = before.table

namespace Session

variable {session : Session} {name : Option String} {now : Nat} {line : String}

theorem Confined.refl (name : Option String) (session : Session) : Confined name session session :=
  ⟨fun _ => rfl, fun _ => rfl, fun _ => ⟨rfl, rfl⟩⟩

/-- Recording lines concerns the history alone. -/
theorem Confined.record {after : Session} (h : Confined name session after) (lines : List String) :
    Confined name session (after.record lines) := ⟨h.tree, h.cwd, h.packages⟩

end Session

/-! ### Commands -/

namespace Builtin

variable (builtin : Builtin) (now : Nat) (args : List String) (session : Session)

theorem snd_apply_brew :
    (brew.effect.apply now args session).2 =
      session.changed (brewChange? args session.catalog) := brew_eq args session

/-- A built-in command is confined by its name. -/
theorem confined :
    Session.Confined (some builtin.name) session (builtin.effect.apply now args session).2 := by
  have hedit : ∀ {name : String} {after : Session},
      name ∈ ["touch", "mkdir", "rm", "cp", "mv", "echo"] → after.cwd = session.cwd →
      after.catalog = session.catalog → after.table = session.table →
        Session.Confined (some name) session after := fun hname hcwd hcatalog htable =>
    ⟨fun hnone => absurd rfl (hnone _ hname), fun _ => hcwd, fun _ => ⟨hcatalog, htable⟩⟩
  cases builtin with
  | touch | mkdir | rm | cp | mv | echo => exact hedit (by decide) rfl rfl rfl
  | cd => exact ⟨fun _ => rfl, fun hname => absurd rfl hname, fun _ => ⟨rfl, rfl⟩⟩
  | brew =>
    rw [snd_apply_brew]
    exact ⟨fun _ => session.tree_changed _, fun _ => session.cwd_changed _,
      fun hname => absurd rfl hname⟩
  | _ => exact ⟨fun _ => rfl, fun _ => rfl, fun _ => ⟨rfl, rfl⟩⟩

/-- Only `clear` concerns the history. -/
theorem history_apply :
    (builtin.effect.apply now args session).2.history =
      if builtin = clear then [] else session.history := by
  cases builtin with
  | brew => rw [snd_apply_brew]; exact session.history_changed _
  | _ => rfl

/-- Only `brew` concerns the packages. -/
theorem packages_apply :
    let change := if builtin = brew then brewChange? args session.catalog else none
    (builtin.effect.apply now args session).2.catalog = (session.changed change).catalog ∧
      (builtin.effect.apply now args session).2.table = (session.changed change).table := by
  cases builtin with
  | brew => rw [snd_apply_brew]; exact ⟨rfl, rfl⟩
  | _ => exact ⟨rfl, rfl⟩

theorem recorded_command : builtin.command.recorded = decide (builtin ≠ clear) := by
  cases builtin <;> rfl

end Builtin

/-! ### Lines -/

/-- The change of the packages that a line makes. -/
def lineChange? (line : String) (catalog : Catalog) : Option Change :=
  if commandName line = some "brew" then brewChange? (lineWords line).tail catalog else none

namespace Session

variable {session : Session} {builtin : Builtin} {line : String}

/-- A line with the name of a built-in command calls it. Only `clear` is not recorded. -/
theorem run_of_builtin (h : session.table.Reached) (now : Nat)
    (hname : commandName line = some builtin.name) :
    session.run now line =
      let ended := builtin.command.call now builtin.name (lineWords line).tail session
      let lines := session.shown line :: if ended.1 = "" then [] else [ended.1]
      if builtin = .clear then ([], ended.2) else (lines, ended.2.record lines) := by
  rw [run_of_find? hname (h.find?_builtin builtin), builtin.recorded_command]
  by_cases hclear : builtin = .clear <;> simp [hclear]

/-- Any other line changes nothing but the history, whether a package has a command of the name or
not. -/
theorem run_of_not_builtin (h : session.table.Reached) (now : Nat)
    (hname : ∀ builtin : Builtin, commandName line ≠ some builtin.name) :
    ∃ said : List String, said.length ≤ 1 ∧
      session.run now line =
        (session.shown line :: said, session.record (session.shown line :: said)) := by
  rcases session.command_cases line with hnone | ⟨name, command, hline, hfind⟩
  · exact run_of_none hnone
  · rcases h.find?_cases hfind with ⟨builtin, rfl, -⟩ | ⟨package, rfl⟩
    · exact absurd hline (hname builtin)
    · rw [run_of_find? hline hfind]
      refine ⟨_, ?_, rfl⟩
      split <;> simp

/-- **A line is confined by the name of its command.** -/
theorem run_confined (h : session.table.Reached) (now : Nat) (line : String) :
    Confined (commandName line) session (session.run now line).2 := by
  by_cases hname : ∃ builtin : Builtin, commandName line = some builtin.name
  · obtain ⟨builtin, hname⟩ := hname
    have hcall : Confined (commandName line) session
        (builtin.command.call now builtin.name (lineWords line).tail session).2 := by
      rw [hname, Command.call_snd]
      exact builtin.confined now _ session
    rw [run_of_builtin h now hname]
    dsimp only
    split
    · exact hcall
    · exact hcall.record _
  · obtain ⟨said, -, hrun⟩ := run_of_not_builtin h now (not_exists.1 hname)
    rw [hrun]
    exact (Confined.refl _ session).record _

/-- A line makes the change of the packages that it asks `brew` for, and no other. -/
theorem packages_run (h : session.table.Reached) (now : Nat) (line : String) :
    let change := lineChange? line session.catalog
    (session.run now line).2.catalog = (session.changed change).catalog ∧
      (session.run now line).2.table = (session.changed change).table := by
  by_cases hname : ∃ builtin : Builtin, commandName line = some builtin.name
  · obtain ⟨builtin, hname⟩ := hname
    have hbrew : (commandName line = some "brew") = (builtin = .brew) := by
      rw [hname, Option.some.injEq]
      exact propext ⟨fun h => Builtin.name_injective h, fun h => h ▸ rfl⟩
    have hpackages := builtin.packages_apply now (lineWords line).tail session
    rw [run_of_builtin h now hname]
    simp only [lineChange?, hbrew]
    split
    · rwa [Command.call_snd]
    · simp only [record]
      rwa [Command.call_snd]
  · have hbrew : commandName line ≠ some "brew" := not_exists.1 hname .brew
    obtain ⟨said, -, hrun⟩ := run_of_not_builtin h now (not_exists.1 hname)
    rw [hrun, lineChange?, if_neg hbrew]
    exact ⟨rfl, rfl⟩

theorem table_run_reached (h : session.table.Reached) (now : Nat) (line : String) :
    (session.run now line).2.table.Reached := by
  rw [(packages_run h now line).2]
  exact table_changed_reached _ h

/-- A line is recorded with what it answers, one line at most. Only `clear` is not: it answers
nothing and empties the history. -/
theorem run_history (h : session.table.Reached) (now : Nat) (line : String) :
    if commandName line = some "clear" then
      (session.run now line).1 = [] ∧ (session.run now line).2.history = []
    else ∃ said : List String, said.length ≤ 1 ∧
      (session.run now line).1 = session.shown line :: said ∧
        (session.run now line).2.history = session.history ++ (session.run now line).1 := by
  by_cases hname : ∃ builtin : Builtin, commandName line = some builtin.name
  · obtain ⟨builtin, hname⟩ := hname
    have hclear : (commandName line = some "clear") = (builtin = .clear) := by
      rw [hname, Option.some.injEq]
      exact propext ⟨fun h => Builtin.name_injective h, fun h => h ▸ rfl⟩
    have hhistory := builtin.history_apply now (lineWords line).tail session
    rw [run_of_builtin h now hname]
    simp only [hclear]
    split
    · next heq =>
      rw [if_pos heq] at hhistory
      refine ⟨rfl, ?_⟩
      rwa [Command.call_snd]
    · next hne =>
      rw [if_neg hne] at hhistory
      refine ⟨_, ?_, rfl, ?_⟩
      · split <;> simp
      · simp only [record]
        rw [Command.call_snd]
        exact congrArg (· ++ _) hhistory
  · have hclear : commandName line ≠ some "clear" := not_exists.1 hname .clear
    obtain ⟨said, hsaid, hrun⟩ := run_of_not_builtin h now (not_exists.1 hname)
    rw [if_neg hclear, hrun]
    exact ⟨said, hsaid, rfl, rfl⟩

/-- The commands of the packages that are installed at the start have been registered. -/
theorem table_start_reached (tree : FileTree) (catalog : Catalog) (user host : String)
    (clock : Moment) : (start tree catalog user host clock).table.Reached := by
  have hfold : ∀ (packages : List Package) {table : CommandTable}, table.Reached →
      (packages.foldl (fun table package => table.register package) table).Reached := by
    intro packages
    induction packages with
    | nil => exact id
    | cons package packages ih => exact fun h => ih (h.register package)
  change (catalog.installed.foldl (fun table package => table.register package)
    CommandTable.builtins).Reached
  exact hfold catalog.installed .builtins

/-! ### Any number of lines -/

/-- Whether a line empties the history. -/
def clears (line : String) : Bool := commandName line == some "clear"

/-- The session after lines were run one after the other, each at its own time. -/
def afterLines (session : Session) (lines : List (Nat × String)) : Session :=
  lines.foldl (fun session entry => (session.run entry.1 entry.2).2) session

/-- What each of a list of lines answers when they are run one after the other. -/
def answers (session : Session) : List (Nat × String) → List (List String)
  | [] => []
  | (now, line) :: rest => (session.run now line).1 :: (session.run now line).2.answers rest

/-- The answers to those lines of a list that come after the last `clear` in it. -/
def answersSinceClear (session : Session) (lines : List (Nat × String)) : List (List String) :=
  ((lines.zip (session.answers lines)).rtakeWhile fun entry => !clears entry.1.2).map Prod.snd

theorem afterLines_cons (session : Session) (entry : Nat × String) (rest : List (Nat × String)) :
    session.afterLines (entry :: rest) = (session.run entry.1 entry.2).2.afterLines rest := by
  rw [afterLines, List.foldl_cons, afterLines]

theorem afterLines_concat (session : Session) (lines : List (Nat × String)) (now : Nat)
    (line : String) :
    session.afterLines (lines ++ [(now, line)]) = ((session.afterLines lines).run now line).2 :=
  List.foldl_append

theorem answers_concat (session : Session) (lines : List (Nat × String)) (now : Nat)
    (line : String) :
    session.answers (lines ++ [(now, line)]) =
      session.answers lines ++ [((session.afterLines lines).run now line).1] := by
  induction lines generalizing session with
  | nil => rfl
  | cons entry rest ih =>
    rw [List.cons_append, answers, answers, ih, List.cons_append, afterLines_cons]

theorem length_answers (session : Session) (lines : List (Nat × String)) :
    (session.answers lines).length = lines.length := by
  induction lines generalizing session with
  | nil => rfl
  | cons entry rest ih => rw [answers, List.length_cons, ih, List.length_cons]

/-- With one line more, its answer comes behind the others, or there are none any more. -/
theorem answersSinceClear_concat (session : Session) (lines : List (Nat × String)) (now : Nat)
    (line : String) :
    session.answersSinceClear (lines ++ [(now, line)]) =
      if clears line then []
      else session.answersSinceClear lines ++ [((session.afterLines lines).run now line).1] := by
  unfold answersSinceClear
  rw [answers_concat, List.zip_append (length_answers session lines).symm, List.zip_cons_cons,
    List.zip_nil_right, List.rtakeWhile_concat]
  cases clears line <;> simp

theorem table_afterLines_reached (h : session.table.Reached) (lines : List (Nat × String)) :
    (session.afterLines lines).table.Reached := by
  induction lines generalizing session with
  | nil => exact h
  | cons entry rest ih =>
    rw [afterLines_cons]
    exact ih (table_run_reached h entry.1 entry.2)

/-- The history is what has been answered since the last `clear`, on top of the history before if
there was none. -/
theorem history_afterLines (h : session.table.Reached) (lines : List (Nat × String)) :
    (session.afterLines lines).history =
      (if lines.any (clears ·.2) then [] else session.history) ++
        (session.answersSinceClear lines).flatten := by
  -- from the end, since a line acts on the history that all lines before it have left
  induction lines using List.reverseRecOn with
  | nil => simp [afterLines, answersSinceClear, answers]
  | append_singleton lines entry ih =>
    obtain ⟨now, line⟩ := entry
    have hline := run_history (table_afterLines_reached h lines) now line
    have hanswers := answersSinceClear_concat session lines now line
    rw [afterLines_concat]
    by_cases hclear : commandName line = some "clear"
    · have hclears : clears line = true := beq_iff_eq.2 hclear
      have hany : (lines ++ [(now, line)]).any (clears ·.2) = true := by simp [hclears]
      rw [if_pos hclear] at hline
      rw [if_pos hclears] at hanswers
      rw [hline.2, hanswers, hany]
      rfl
    · have hclears : clears line = false := beq_eq_false_iff_ne.2 hclear
      have hany : (lines ++ [(now, line)]).any (clears ·.2) = lines.any (clears ·.2) := by
        simp [hclears]
      rw [if_neg hclear] at hline
      rw [hclears, if_neg Bool.false_ne_true] at hanswers
      obtain ⟨said, -, -, hhistory⟩ := hline
      rw [hhistory, ih, hanswers, hany, List.flatten_append, List.flatten_singleton,
        List.append_assoc]

/-- **Which line may change what, and what the history is.** In a session with any tree, packages,
working directory and history, and with any table that a session can have, a line changes the tree,
the working directory and the packages only by the commands that are there for it. Unless it calls
`clear`, which answers nothing and empties the history, a line is added to the history as it is
shown under the prompt, together with one line of output at most, and these lines are its answer.
After any number of lines the history is what has been answered since the last `clear`. -/
theorem scope_of_lines (h : session.table.Reached) :
    (∀ now line,
      Confined (commandName line) session (session.run now line).2 ∧
        if commandName line = some "clear" then
          (session.run now line).1 = [] ∧ (session.run now line).2.history = []
        else ∃ said : List String, said.length ≤ 1 ∧
          (session.run now line).1 = (session.prompt ++ " $ " ++ trimmedLine line) :: said ∧
            (session.run now line).2.history = session.history ++ (session.run now line).1) ∧
      ∀ lines, (session.afterLines lines).history =
        (if lines.any (clears ·.2) then [] else session.history) ++
          (session.answersSinceClear lines).flatten :=
  ⟨fun now line => ⟨run_confined h now line, run_history h now line⟩, history_afterLines h⟩

/-- A package that claims the names of built-in commands: `clear` still clears, and what is answered
later is the history. -/
theorem shadowed_clear_clears :
    let session := start .empty [⟨"shadow", "1.0", true, ["clear", "x"]⟩] "user" "host"
      ⟨2024, 1, 2, 3, 4, 5⟩
    let lines := [(1, "x"), (2, " CLEAR  all"), (3, "x -v\n")]
    session.table.Reached ∧ (session.answersSinceClear lines).flatten = ["~ $ x -v", "x 1.0"] ∧
      (session.afterLines lines).history = ["~ $ x -v", "x 1.0"] := by
  intro session lines
  have hreached : session.table.Reached := table_start_reached _ _ _ _ _
  have hanswers : (session.answersSinceClear lines).flatten = ["~ $ x -v", "x 1.0"] := by
    decide +kernel
  have hclears : lines.any (clears ·.2) = true := by decide +kernel
  refine ⟨hreached, hanswers, ?_⟩
  rw [(scope_of_lines hreached).2 lines, hclears, hanswers]
  rfl

end Session

end Shellbox.Shell
