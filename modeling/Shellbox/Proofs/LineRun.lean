import Mathlib.Data.List.DropRight
import Shellbox.Shell.Dispatch
/-!
# What running a line comes to

A line that names no command of the table is shown, with a complaint if it names anything, and that
is all (`Session.run_of_missing`). A line that names one is shown with the output of the command, in
the session that the command leaves behind, unless the command is one that goes unrecorded
(`Session.run_of_find?`). No proof further on opens `Session.run`.

The line is cut into words after the line break at its end was taken off. That makes no difference
to the words, since the characters of a line break are blanks (`lineWords_trimmedLine`).
-/

namespace Shellbox

namespace Text

/-- Blanks at the end add nothing to the word being read, and no word. -/
theorem wordsFrom_of_blank {blanks : List Char} (h : ∀ c ∈ blanks, isBlank c) (word : List Char) :
    wordsFrom word blanks = wordsFrom word [] := by
  induction blanks generalizing word with
  | nil => rfl
  | cons c rest ih =>
    have hrest : wordsFrom [] rest = [] := ih (fun d hd => h d (List.mem_cons_of_mem _ hd)) []
    have hc : isBlank c := h c List.mem_cons_self
    simp only [wordsFrom, hc, if_true, hrest]

theorem wordsFrom_append_of_blank {blanks : List Char} (h : ∀ c ∈ blanks, isBlank c)
    (word text : List Char) : wordsFrom word (text ++ blanks) = wordsFrom word text := by
  induction text generalizing word with
  | nil => exact wordsFrom_of_blank h word
  | cons c rest ih => simp only [List.cons_append, wordsFrom, ih]

/-- Dropping blanks at the end of a text leaves its words. -/
theorem words_dropEnd {p : Char → Bool} (hp : ∀ c, p c → isBlank c) (text : List Char) :
    words (dropEnd p text) = words text := by
  have hdropped : ∀ c ∈ text.rtakeWhile p, isBlank c := fun c hc =>
    hp c (List.mem_rtakeWhile_imp hc)
  calc words (dropEnd p text)
      = wordsFrom [] (text.rdropWhile p ++ text.rtakeWhile p) :=
        (wordsFrom_append_of_blank hdropped [] _).symm
    _ = words text := by rw [List.rdropWhile_append_rtakeWhile]; rfl

end Text

namespace Shell

/-- Taking the line break off a line leaves its words. -/
theorem lineWords_trimmedLine (line : String) : lineWords (trimmedLine line) = lineWords line := by
  have hblank : ∀ c : Char, (decide (c = '\r') || decide (c = '\n')) → Text.isBlank c := by
    intro c hc
    rw [Bool.or_eq_true, decide_eq_true_iff, decide_eq_true_iff] at hc
    rcases hc with rfl | rfl <;> decide
  rw [lineWords, trimmedLine, String.toList_ofList, Text.words_dropEnd hblank, lineWords]

/-- The name of the command that a line calls: its first word in lower case. -/
def commandName (line : String) : Option String := (lineWords line).head?.map Text.lowerString

/-- What is said about a line that names no command of the table. -/
def complaint (line : String) : List String := ((commandName line).map notFound).toList

/-- A line as it is shown, behind the prompt and without the line break. -/
def Session.shown (session : Session) (line : String) : String :=
  session.prompt ++ " $ " ++ trimmedLine line

/-- The session that a command leaves behind is the one that its effect makes. -/
theorem Command.call_snd (now : Nat) (name : String) (args : List String) (command : Command)
    (session : Session) :
    (command.call now name args session).2 =
      (command.action.effect.apply now args session).2 := by
  unfold call
  generalize command.action.effect.apply now args session = ended
  obtain ⟨outcome, left⟩ := ended
  cases outcome <;> rfl

namespace Session

variable {session : Session} {now : Nat} {line name : String} {command : Command}

/-- A line names a command of the table or none. -/
theorem command_cases (session : Session) (line : String) :
    (∀ name ∈ commandName line, session.table.find? name = none) ∨
      ∃ name command, commandName line = some name ∧ session.table.find? name = some command := by
  by_cases hnone : ∀ name ∈ commandName line, session.table.find? name = none
  · exact Or.inl hnone
  · simp only [not_forall, exists_prop] at hnone
    obtain ⟨name, hline, hsome⟩ := hnone
    obtain ⟨command, hfind⟩ := Option.ne_none_iff_exists'.1 hsome
    exact Or.inr ⟨name, command, hline, hfind⟩

/-- A line that names no command is shown, with a complaint if it names anything. -/
theorem run_of_missing (h : ∀ name ∈ commandName line, session.table.find? name = none) :
    session.run now line =
      (session.shown line :: complaint line,
        session.record (session.shown line :: complaint line)) := by
  unfold run complaint commandName
  simp only [lineWords_trimmedLine]
  cases hwords : lineWords line with
  | nil => rfl
  | cons first args =>
    have hnone : session.table.find? (Text.lowerString first) = none :=
      h _ (by rw [commandName, hwords]; rfl)
    simp only [hnone]
    rfl

/-- A line that names no command is shown, and what there is to say about it in one line more. -/
theorem run_of_none (h : ∀ name ∈ commandName line, session.table.find? name = none) :
    ∃ said : List String, said.length ≤ 1 ∧
      session.run now line =
        (session.shown line :: said, session.record (session.shown line :: said)) := by
  refine ⟨complaint line, ?_, run_of_missing h⟩
  rw [complaint, Option.length_toList]
  split_ifs <;> omega

/-- A line that names a command is shown with what the command puts out, unless the command goes
unrecorded. -/
theorem run_of_find? (hname : commandName line = some name)
    (hfind : session.table.find? name = some command) :
    session.run now line =
      let ended := command.call now name (lineWords line).tail session
      let lines := session.shown line :: if ended.1 = "" then [] else [ended.1]
      if command.recorded then (lines, ended.2.record lines) else ([], ended.2) := by
  unfold run
  simp only [lineWords_trimmedLine]
  cases hwords : lineWords line with
  | nil => rw [commandName, hwords] at hname; cases hname
  | cons first args =>
    rw [commandName, hwords] at hname
    have hfirst : Text.lowerString first = name := Option.some.inj hname
    simp only [hfirst, hfind, List.tail_cons]
    cases command.recorded with
    | false => rfl
    | true =>
      by_cases hempty : (command.call now name args session).1 = ""
      · simp [hempty, shown]
      · simp [hempty, shown]

end Session

end Shell
end Shellbox
