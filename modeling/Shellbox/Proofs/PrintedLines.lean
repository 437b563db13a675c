import Shellbox.CommandLine.Outcome
import Shellbox.Proofs.CapturedOutput
import Shellbox.Proofs.ReplyShape
/-!
# The lines that a run prints

A child reports what its snippet printed as lines. The result has them joined by line feeds, and the
program writes it with one more line feed behind it, so that in the end there is one behind each line
(`Codes.joinWith_append_lineFeed`). But nothing is written for an empty result, which is what no lines
are joined to, and a single empty line just as well (`Codes.joinWith_eq_nil_iff`). So all lines are
printed as they were reported, empty ones included, unless an empty line is the only one: then it is
lost (`CommandLine.answer_run_lines_iff`).
-/

namespace Shellbox

namespace Codes

/-- Lines with line feeds behind them. -/
def unlines (lines : List Codes) : Codes := lines.flatMap (· ++ [10])

variable {lines : List Codes}

theorem joinWith_cons_cons (separator : String) (line next : Codes) (rest : List Codes) :
    joinWith separator (line :: next :: rest) =
      line ++ ofString separator ++ joinWith separator (next :: rest) := rfl

/-- Lines that are joined by line feeds, and one more, are lines with line feeds behind them. -/
theorem joinWith_append_lineFeed (h : lines ≠ []) :
    joinWith "\n" lines ++ [10] = unlines lines := by
  induction lines with
  | nil => exact absurd rfl h
  | cons line rest ih =>
    cases rest with
    | nil => exact (List.append_nil _).symm
    | cons next rest =>
      rw [joinWith_cons_cons, List.append_assoc, ih (List.cons_ne_nil next rest)]
      rfl

/-- Two lists of lines are joined to nothing. -/
theorem joinWith_eq_nil_iff : joinWith "\n" lines = [] ↔ lines = [] ∨ lines = [[]] := by
  match lines with
  | [] => exact iff_of_true rfl (Or.inl rfl)
  | [line] => simp [joinWith]
  | line :: next :: rest =>
    have hfeed : ofString "\n" = [10] := rfl
    simp [joinWith_cons_cons, hfeed]

end Codes

namespace Sandbox

variable {lines : List Codes}

/-- A reply that reports lines: they are its output, there was no more, and there is no error. -/
structure ReportsLines (members : List (Codes × Json)) (lines : List Codes) : Prop where
  output : member? "output" members = some (.array (lines.map .text))
  complete : member? "truncated" members = some (.bool false)
  flawless : member? "error" members = some .null

/-- The result of a reply that reports lines. -/
theorem ReportsLines.resultOf_eq {members : List (Codes × Json)}
    (h : ReportsLines members lines) :
    resultOf members = .ok ⟨Codes.joinWith "\n" lines, none⟩ := by
  have herror : (member? "error" members).filter Json.isTrue = none := by
    rw [h.flawless]
    rfl
  have hmarks : marks members = [] := by
    rw [marks, h.complete]
    rfl
  refine resultOf_eq_ok_iff.2 (Or.inr ⟨herror, lines, ?_, ?_⟩)
  · rw [h.output]
    rfl
  · rw [hmarks, List.append_nil]

/-- A child that has captured everything reports the lines captured. -/
theorem exists_reportsLines {capture : Capture} (h : capture.truncated = false) (spare : ℕ) :
    ∃ members, Json.read (spare + 2) capture.reply.toPlain.toList = .ok (.object members) ∧
      ReportsLines members (capture.lines.map Codes.ofString) := by
  have hdepth : capture.reply.depth ≤ spare + 2 := by
    rw [capture.depth_reply]
    omega
  refine ⟨_, Json.read_toPlain capture.proper_reply hdepth, ?_, ?_, rfl⟩
  · rw [List.map_map]
    rfl
  · rw [h.symm]
    rfl

end Sandbox

namespace CommandLine

open Sandbox (Capture Child ChildLimits Limits ReportsLines request)

variable {lines : List Codes}

/-- What is written for joined lines: each with a line feed behind it, and nothing for a single empty
one. -/
theorem asLine_joinWith (lines : List Codes) :
    asLine (Codes.joinWith "\n" lines) = if lines = [[]] then [] else Codes.unlines lines := by
  unfold asLine
  split_ifs with hempty hlost hlost
  · rfl
  · -- of the two lists that are joined to nothing, this is the one without lines
    rcases Codes.joinWith_eq_nil_iff.1 (List.isEmpty_iff.1 hempty) with rfl | hsingle
    · rfl
    · exact absurd hsingle hlost
  · exact absurd (List.isEmpty_iff.2 (Codes.joinWith_eq_nil_iff.2 (Or.inr hlost))) hempty
  · refine Codes.joinWith_append_lineFeed fun hnone => hempty ?_
    exact List.isEmpty_iff.2 (Codes.joinWith_eq_nil_iff.2 (Or.inl hnone))

/-- What comes of a run whose child reports lines. -/
theorem runOutcome_of_reportsLines (source : String) {limits : Limits} {told : ChildLimits}
    {child : Child} {spare : ℕ} {text : String} {members : List (Codes × Json)}
    (htold : limits.forChild? = some told) (hsaid : child.Says limits text)
    (hread : Json.read (spare + 2) text.toList = .ok (.object members))
    (hlines : ReportsLines members lines) :
    runOutcome source limits child spare = .ok
      { output := if lines = [[]] then [] else Codes.unlines lines
        request := child.taken (request source told) } := by
  have houtcome : child.outcome limits spare = .ok ⟨Codes.joinWith "\n" lines, none⟩ := by
    rw [hsaid.outcome, Sandbox.readReply_toUTF8, hread]
    exact hlines.resultOf_eq
  unfold runOutcome
  rw [Sandbox.execute_of_started htold hsaid.started, houtcome, ← asLine_joinWith]
  rfl

/-- **The lines that a run prints.** If the child of a run comes through in time, ends well and
reports lines, the run ends with status zero and without a word on the error stream. It writes each
line with a line feed behind it, except if there is one line only and that is empty: then it writes
nothing. The lines are texts that the output stream can encode, which are those without half of a
surrogate pair. -/
theorem answer_run_lines_iff {args : List String} {file : String} {limits : Limits}
    {told : Surroundings} {text : String} {members : List (Codes × Json)}
    (hargs : Request.read args = .ok (.run file limits))
    (hdeadline : limits.forChild?.isSome) (hsaid : told.child.Says limits text)
    (hread : Json.read (told.spare + 2) text.toList = .ok (.object members))
    (hlines : ReportsLines members lines) :
    ∃ outcome, answer args told = .ok outcome ∧
      outcome.code = 0 ∧ outcome.errors = [] ∧
      (outcome.output = Codes.unlines lines ↔ lines ≠ [[]]) ∧
      (lines = [[]] → outcome.output = []) := by
  obtain ⟨sent, hsent⟩ := Option.isSome_iff_exists.1 hdeadline
  have hrun := runOutcome_of_reportsLines told.source hsent hsaid hread hlines
  have hanswer : answer args told = runOutcome told.source limits told.child told.spare := by
    rw [answer, hargs]
  refine ⟨_, hanswer.trans hrun, rfl, rfl, ?_, fun hlost => if_pos hlost⟩
  by_cases hlost : lines = [[]]
  · have hline : Codes.unlines [[]] ≠ [] := by decide
    rw [hlost, if_pos rfl]
    exact iff_of_false hline.symm (not_not.2 rfl)
  · exact iff_of_true (if_neg hlost) hlost

/-- Empty lines around another one are printed. -/
theorem empty_lines_around_are_printed :
    let capture := Capture.ofCalls 65536 [{ args := [] }, { args := [.text "a"] }, { args := [] }] none
    let told : Surroundings :=
      { source := "print()\nprint('a')\nprint()", child := { chunks := [capture.replyBytes] },
        spare := 0 }
    Request.read ["run", "-"] = .ok (.run "-" {}) ∧ ({} : Limits).forChild?.isSome ∧
      told.child.Says {} capture.reply.toPlain ∧
      (∃ members, Json.read 2 capture.reply.toPlain.toList = .ok (.object members) ∧
        ReportsLines members [[], [97], []]) ∧
      ∃ outcome, answer ["run", "-"] told = .ok outcome ∧
        outcome.code = 0 ∧ outcome.errors = [] ∧ outcome.output = [10, 97, 10, 10] := by
  intro capture told
  have hargs : Request.read ["run", "-"] = .ok (.run "-" {}) := by decide +kernel
  have hdeadline : ({} : Limits).forChild?.isSome := by decide +kernel
  have hsaid : told.child.Says {} capture.reply.toPlain := ⟨rfl, rfl, rfl, by decide +kernel⟩
  have hcaptured : capture.lines.map Codes.ofString = [[], [97], []] := by decide +kernel
  obtain ⟨members, hread, hlines⟩ :=
    Sandbox.exists_reportsLines (show capture.truncated = false by decide +kernel) 0
  rw [hcaptured] at hlines
  obtain ⟨outcome, hanswer, hcode, herrors, houtput, -⟩ :=
    answer_run_lines_iff hargs hdeadline hsaid hread hlines
  exact ⟨hargs, hdeadline, hsaid, ⟨members, hread, hlines⟩, outcome, hanswer, hcode, herrors,
    houtput.2 (by decide)⟩

/-- A single empty line is not printed. -/
theorem single_empty_line_is_lost :
    let capture := Capture.ofCalls 65536 [{ args := [] }] none
    let told : Surroundings :=
      { source := "print()", child := { chunks := [capture.replyBytes] }, spare := 0 }
    Request.read ["run", "-"] = .ok (.run "-" {}) ∧ told.child.Says {} capture.reply.toPlain ∧
      (∃ members, Json.read 2 capture.reply.toPlain.toList = .ok (.object members) ∧
        ReportsLines members [[]]) ∧
      answer ["run", "-"] told = .ok { request := request "print()" ⟨4, 268435456, 65536⟩ } ∧
      Codes.unlines [[]] = [10] := by
  intro capture told
  have hcaptured : capture.lines.map Codes.ofString = [[]] := by decide +kernel
  obtain ⟨members, hread, hlines⟩ :=
    Sandbox.exists_reportsLines (show capture.truncated = false by decide +kernel) 0
  rw [hcaptured] at hlines
  exact ⟨by decide +kernel, ⟨rfl, rfl, rfl, by decide +kernel⟩, ⟨members, hread, hlines⟩,
    by decide +kernel, rfl⟩

end CommandLine
end Shellbox
