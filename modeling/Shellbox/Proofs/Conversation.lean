import Shellbox.CommandLine.Outcome
import Shellbox.Proofs.CommandScope
import Shellbox.Proofs.PathText
/-!
# A conversation writes what its lines write at once

The same lines can be given to a session one at a time in a conversation, or all at once in a text
with semicolons between them. The text is cut into lines without blanks around them, the lines of a
conversation are run as they come, and each is repeated in the history as it was run.

That is the only trace of the blanks. What a line calls is decided by its words
(`Text.words_strip`), and no command reads the history, so two sessions that agree up to their
histories go on to agree, and to write the same, whatever blanks stand around the lines
(`reply_congr`, `view_afterLines`). Since the pieces of the text are the lines that were joined,
both ways of giving them write the same lines (`converse_lines`). A conversation writes prompts
between them, so that the two standard outputs are equal apart from these
(`output_shellOutcome_eq`).
-/

namespace Shellbox

namespace Text

/-- Blanks in front of a text add no word. -/
theorem words_dropWhile_isBlank (text : List Char) :
    words (text.dropWhile isBlank) = words text := by
  induction text with
  | nil => rfl
  | cons c rest ih =>
    by_cases hc : isBlank c
    · rw [List.dropWhile_cons_of_pos hc, ih]
      simp [words, wordsFrom, hc]
    · rw [List.dropWhile_cons_of_neg hc]

/-- A text has the same words without the blanks around it. -/
theorem words_strip (text : List Char) : words (strip text) = words text := by
  rw [strip, words_dropEnd (fun _ h => h), words_dropWhile_isBlank]

end Text

/-- A line without the blanks around it. -/
def stripped (line : String) : String := String.ofList (Text.strip line.toList)

theorem lineWords_stripped (line : String) :
    Shell.lineWords (stripped line) = Shell.lineWords line := by
  rw [Shell.lineWords, stripped, String.toList_ofList, Text.words_strip, Shell.lineWords]

namespace Shell

/-- A session without its history: all of it that a line can see. -/
def Session.view (session : Session) : Session := { session with history := [] }

/-- Managing packages does not concern the history. -/
theorem view_brew (args : List String) (session : Session) :
    (brew args session).1 = (brew args session.view).1 ∧
      (brew args session).2.view = (brew args session.view).2.view := by
  constructor
  · unfold brew brewInstall brewUninstall
    split
    · rfl
    · rfl
    · dsimp only [Session.view]
      cases session.catalog.find? _ with
      | none => rfl
      | some package => dsimp only; split_ifs <;> rfl
    · dsimp only [Session.view]
      cases session.catalog.find? _ with
      | none => rfl
      | some package => dsimp only; split_ifs <;> rfl
    · rfl
    · rfl
  · rw [brew_eq, brew_eq]
    change (session.changed (brewChange? args session.catalog)).view =
      (session.view.changed (brewChange? args session.catalog)).view
    cases brewChange? args session.catalog <;> rfl

/-- No command reads the history: what it puts out, and what it leaves behind up to the history, is
the same for a session without one. -/
theorem Action.apply_view (action : Action) (now : Nat) (args : List String) (session : Session) :
    (action.effect.apply now args session).1 = (action.effect.apply now args session.view).1 ∧
      (action.effect.apply now args session).2.view =
        (action.effect.apply now args session.view).2.view := by
  cases action with
  | provided package command => exact ⟨rfl, rfl⟩
  | builtin command =>
    cases command with
    | brew =>
      obtain ⟨hsaid, hleft⟩ := view_brew args session
      exact ⟨congrArg Except.ok hsaid, hleft⟩
    | _ => exact ⟨rfl, rfl⟩

namespace Session

variable {left right : Session}

/-- A command called in two sessions that agree up to the history puts out the same and leaves
behind sessions that agree up to the history. -/
theorem call_congr (h : left.view = right.view) (now : Nat) (name : String) (args : List String)
    (command : Command) :
    (command.call now name args left).1 = (command.call now name args right).1 ∧
      (command.call now name args left).2.view = (command.call now name args right).2.view := by
  obtain ⟨hleft, hleftView⟩ := command.action.apply_view now args left
  obtain ⟨hright, hrightView⟩ := command.action.apply_view now args right
  have hsaid : (command.action.effect.apply now args left).1 =
      (command.action.effect.apply now args right).1 := by rw [hleft, h, hright]
  refine ⟨?_, by rw [Command.call_snd, Command.call_snd, hleftView, h, hrightView]⟩
  unfold Command.call
  generalize command.action.effect.apply now args left = endedLeft at hsaid
  generalize command.action.effect.apply now args right = endedRight at hsaid
  obtain ⟨outcome, sessionLeft⟩ := endedLeft
  obtain ⟨outcome', sessionRight⟩ := endedRight
  obtain rfl : outcome = outcome' := hsaid
  cases outcome <;> rfl

end Session

end Shell

namespace CommandLine

open Shell (Session lineWords commandName)

variable {left right : Session}

theorem reply_eq (now : Nat) (line : String) (session : Session) :
    reply now line session =
      ((session.run now line).1.tail, (session.run now line).2) := by
  unfold reply
  obtain ⟨lines, next⟩ := session.run now line
  rw [← List.drop_one]

/-- **Only the words of a line count, and not the history.** Two lines of the same words, run in
sessions that agree up to the history, write the same and leave behind sessions that agree up to the
history. -/
theorem reply_congr (h : left.view = right.view) {line other : String}
    (hwords : lineWords line = lineWords other) (now : Nat) :
    (reply now line left).1 = (reply now other right).1 ∧
      (reply now line left).2.view = (reply now other right).2.view := by
  have hname : commandName line = commandName other := by
    rw [commandName, hwords, commandName]
  have htable : left.view.table = right.view.table := by rw [h]
  change left.table = right.table at htable
  rcases left.command_cases line with hnone | ⟨name, command, hline, hfind⟩
  · have hnone' : ∀ name ∈ commandName other, right.table.find? name = none := by
      rw [← hname, ← htable]
      exact hnone
    have hsaid : Shell.complaint line = Shell.complaint other := by
      rw [Shell.complaint, hname, Shell.complaint]
    rw [reply_eq, reply_eq, Session.run_of_missing hnone, Session.run_of_missing hnone']
    exact ⟨hsaid, h⟩
  · have hline' : commandName other = some name := hname ▸ hline
    have hfind' : right.table.find? name = some command := htable ▸ hfind
    obtain ⟨hsaid, hview⟩ := Session.call_congr h now name (lineWords other).tail command
    rw [reply_eq, reply_eq, Session.run_of_find? hline hfind, Session.run_of_find? hline' hfind',
      hwords]
    dsimp only
    rw [hsaid]
    cases command.recorded with
    | false => exact ⟨rfl, hview⟩
    | true => exact ⟨rfl, hview⟩

/-- Blanks around lines make no difference to the sessions that the lines leave behind, up to the
history. -/
theorem view_afterLines (h : left.view = right.view) (lines : List (Nat × String)) :
    (left.afterLines lines).view =
      (right.afterLines (lines.map fun entry => (entry.1, stripped entry.2))).view := by
  induction lines generalizing left right with
  | nil => exact h
  | cons entry rest ih =>
    obtain ⟨now, line⟩ := entry
    have hview := (reply_congr h (lineWords_stripped line).symm now).2
    simp only [reply_eq] at hview
    rw [Session.afterLines_cons, List.map_cons, Session.afterLines_cons]
    exact ih hview

/-- The lines of a conversation up to the one that ends it, as they are given in one text. -/
def heeded (lines : List String) : List String := lines.takeWhile (!isFarewell ·)

theorem heeded_cons (line : String) (rest : List String) :
    heeded (line :: rest) = if isFarewell line then [] else line :: heeded rest := by
  by_cases hend : isFarewell line <;> simp [heeded, hend]

/-- A turn writes what its line writes without the blanks around it, and there is one turn for each
line up to the one that ends the conversation, and a last one. -/
theorem converse_lines (h : left.view = right.view) (lines : List String) (now : Nat) :
    (converse now lines left).flatMap Turn.lines =
        replies now ((heeded lines).map stripped) right ∧
      (converse now lines left).length = (heeded lines).length + 1 := by
  induction lines generalizing left right now with
  | nil => exact ⟨rfl, rfl⟩
  | cons line rest ih =>
    rw [converse, respond, heeded_cons]
    by_cases hend : isFarewell line
    · rw [if_pos hend, if_pos hend]
      exact ⟨rfl, rfl⟩
    · obtain ⟨hsaid, hview⟩ := reply_congr h (lineWords_stripped line).symm now
      obtain ⟨hlines, hlength⟩ := ih hview (now + 1)
      rw [if_neg hend, if_neg hend, List.map_cons, replies]
      simp only [List.flatMap_cons, List.length_cons, hlines, hlength, hsaid, and_self]

/-- The lines of all turns are what the turns show without their prompts. -/
theorem ofString_unlines_flatMap (turns : List Turn) :
    Codes.ofString (unlines (turns.flatMap Turn.lines)) =
      turns.flatMap fun turn => Turn.shown { turn with prompt := "" } := by
  induction turns with
  | nil => rfl
  | cons turn rest ih =>
    rw [List.flatMap_cons, List.flatMap_cons, ← ih, Turn.shown, unlines, unlines, unlines,
      String.empty_append, List.map_append, String.join_append, Codes.ofString, Codes.ofString,
      Codes.ofString, String.toList_append, List.map_append]

/-- The pieces of a text of joined lines are these lines without the blanks around them; no line at
all gives an empty one. -/
theorem commandLines_joinWith {lines : List String} (h : ∀ line ∈ lines, ';' ∉ line.toList) :
    commandLines (Text.joinWith ";" lines) = if lines = [] then [""] else lines.map stripped := by
  rw [commandLines, Text.toList_joinWith]
  by_cases hlines : lines = []
  · subst hlines
    rfl
  · have hpieces : Text.pieces ';' (Text.joined [';'] (lines.map String.toList)) =
        lines.map String.toList := by
      refine Text.pieces_joined (by simpa using hlines) fun piece hpiece => ?_
      obtain ⟨line, hline, rfl⟩ := List.mem_map.1 hpiece
      exact h line hline
    rw [if_neg hlines, show ";".toList = [';'] from rfl, hpieces, List.map_map]
    rfl

/-- An empty line writes nothing. -/
theorem replies_empty (now : Nat) (session : Session) : replies now [""] session = [] := rfl

/-- **A conversation and a text of command lines come to the same, apart from the prompts.** Lines
without semicolons are given to a session one at a time, or those before the first one that ends the
conversation in one text with semicolons between them. The standard output of the conversation is
that of the text with a prompt in front of what each line writes and one more at the end; apart from
the prompts the two are equal, and both ways end with status zero. Blanks around lines change
neither what a line writes nor, up to the history, the session that any number of lines leaves
behind. -/
theorem output_shellOutcome_eq (lines : List String) (h : ∀ line ∈ lines, ';' ∉ line.toList)
    (session : Session) :
    let before := lines.takeWhile (!isFarewell ·)
    let asText := execOutcome (Text.joinWith ";" before) session
    let turns := converse 1 lines session
    ((shellOutcome lines session).stdout = turns.flatMap Turn.shown ∧
        asText.stdout = turns.flatMap (fun turn => Turn.shown { turn with prompt := "" }) ∧
          turns.length = before.length + 1) ∧
      ((shellOutcome lines session).output = asText.output ∧
        (shellOutcome lines session).code = 0 ∧ asText.code = 0) ∧
      (∀ now line, (reply now line session).1 = (reply now (stripped line) session).1) ∧
        ∀ entries : List (Nat × String),
          (session.afterLines entries).view =
            (session.afterLines (entries.map fun entry => (entry.1, stripped entry.2))).view := by
  intro before asText turns
  obtain ⟨hlines, hlength⟩ := @converse_lines session session rfl lines 1
  have hbefore : ∀ line ∈ before, ';' ∉ line.toList := fun line hline =>
    h line ((List.takeWhile_prefix _).subset hline)
  have hsame : Codes.ofString (unlines (turns.flatMap Turn.lines)) = asText.output := by
    dsimp only [asText, turns]
    rw [hlines, execOutcome, commandLines_joinWith hbefore]
    split_ifs with hnone
    · rw [heeded, show lines.takeWhile (!isFarewell ·) = [] from hnone, replies_empty]
      rfl
    · rfl
  refine ⟨⟨rfl, ?_, hlength⟩, ⟨hsame, rfl, rfl⟩,
    fun now line => (reply_congr rfl (lineWords_stripped line).symm now).1, view_afterLines rfl⟩
  exact hsame.symm.trans (ofString_unlines_flatMap turns)

/-- A conversation with blanks around its lines: what it writes is read off the one text. -/
theorem output_shellOutcome_blanks :
    let lines := ["mkdir  work ", "\tcd work", "PWD\r", "", " quit ", "rm work"]
    (∀ line ∈ lines, ';' ∉ line.toList) ∧
      (shellOutcome lines Session.default).output =
          Codes.ofString "Directory created: work\n/work\n" ∧
        (shellOutcome lines Session.default).stdout =
          Codes.ofString "~ $ Directory created: work\n~ $ ~/work $ /work\n~/work $ ~/work $ " := by
  intro lines
  have hlines : ∀ line ∈ lines, ';' ∉ line.toList := by decide +kernel
  obtain ⟨⟨hstdout, -⟩, ⟨houtput, -⟩, -⟩ := output_shellOutcome_eq lines hlines Session.default
  refine ⟨hlines, houtput.trans ?_, hstdout.trans ?_⟩
  · decide +kernel
  · decide +kernel

/-- A conversation that ends at once has written a prompt, and the text of no command line
nothing. -/
theorem prompt_is_on_stdout :
    (shellOutcome [] Session.default).stdout = Codes.ofString "~ $ " ∧
      (execOutcome (Text.joinWith ";" []) Session.default).stdout = [] := by
  constructor
  · decide +kernel
  · decide +kernel

end CommandLine
end Shellbox
