import Shellbox.Proofs.CaptureContent
import Shellbox.Proofs.CapturedOutput
import Shellbox.Proofs.PathText
/-!
# The length of what is captured

The limit is for the characters that are printed, line feeds included, and for those of the error.
The lines captured are joined by line feeds again, and most of these were printed: joined lines of a
text are not longer than the text (`length_joinWith_textLines_le`). But when the last line of the
text was left open, the line feed between it and an error was printed by nobody, and no character
was allowed for it. So the output passes the limit, by this one character, exactly if text and error
have used up the limit and the text does not end with a line feed
(`Capture.length_output_le_iff`).
-/

namespace Shellbox

/-! ### Lines joined again -/

/-- Whether the last line of a text has no line feed behind it. -/
def EndsOpen (text : String) : Prop := ∃ c ∈ text.toList.getLast?, c ≠ '\n'

instance (text : String) : Decidable (EndsOpen text) :=
  Option.decidableExistsMem text.toList.getLast?

/-- The last piece is empty exactly if no line is left open. -/
theorem getLast?_linePieces_eq_empty_iff (text : String) :
    (linePieces text).getLast? = some "" ↔ ¬EndsOpen text := by
  unfold linePieces EndsOpen
  have hempty : ∀ piece : List Char, String.ofList piece = "" ↔ piece = [] := fun piece => by
    rw [← String.toList_inj, String.toList_ofList]
    rfl
  simp only [List.getLast?_map, Option.map_eq_some_iff, hempty, exists_eq_right]
  rcases List.eq_nil_or_concat' text.toList with htext | ⟨front, c, htext⟩
  · simp [htext, Text.pieces]
  · obtain ⟨last, hlast⟩ : ∃ last, (Text.pieces '\n' front).getLast? = some last :=
      ⟨_, List.getLast?_eq_some_getLast (Text.pieces_ne_nil '\n' front)⟩
    have hnot := Text.not_mem_of_mem_pieces (List.mem_of_getLast? hlast)
    rw [htext, Text.pieces_append_of_getLast? hlast]
    by_cases hc : c = '\n'
    · subst hc
      simp [Text.pieces_append hnot, Text.pieces]
    · have hpiece : '\n' ∉ last ++ [c] := by simp [hnot, Ne.symm hc]
      simp [Text.pieces_of_not_mem hpiece, hc]

/-- The lines of a text have its characters, and a line feed more if a line was left open. -/
theorem fedLength_textLines (text : String) :
    fedLength (textLines text) = text.length + if EndsOpen text then 1 else 0 := by
  have hpieces : fedLength (linePieces text) = text.length + 1 := fedLength_pieces text.toList
  have hdropped : fedLength (linePieces text).dropLast + ((linePieces text).getLast?.getD "").length =
      text.length := fedLength_dropLast_pieces text.toList
  unfold textLines
  by_cases hopen : EndsOpen text
  · rw [if_neg (mt (getLast?_linePieces_eq_empty_iff text).1 (not_not.2 hopen)), hpieces,
      if_pos hopen]
  · have hlast := (getLast?_linePieces_eq_empty_iff text).2 hopen
    rw [hlast] at hdropped
    rw [if_pos hlast, if_neg hopen]
    exact hdropped

/-- Joining lines leaves out the line feed behind the last one. -/
theorem length_joinWith_add_one {lines : List String} (h : lines ≠ []) :
    (Text.joinWith "\n" lines).length + 1 = fedLength lines := by
  rw [← String.length_toList, Text.toList_joinWith]
  induction lines with
  | nil => exact absurd rfl h
  | cons line lines ih =>
    cases lines with
    | nil => exact congrArg (· + 1) String.length_toList
    | cons next lines =>
      have hjoined : Text.joined "\n".toList ((line :: next :: lines).map String.toList) =
          line.toList ++ "\n".toList ++
            Text.joined "\n".toList ((next :: lines).map String.toList) := rfl
      have hbreak : "\n".toList.length = 1 := rfl
      rw [hjoined, fedLength, ← ih (List.cons_ne_nil next lines), List.length_append,
        List.length_append, String.length_toList, hbreak, Nat.add_assoc]

/-- The lines of a text, joined again, are not longer than the text. -/
theorem length_joinWith_textLines_le (text : String) :
    (Text.joinWith "\n" (textLines text)).length ≤ text.length := by
  have hfed := fedLength_textLines text
  by_cases hnil : textLines text = []
  · rw [hnil]
    exact Nat.zero_le _
  · have hjoined := length_joinWith_add_one hnil
    split_ifs at hfed <;> omega

/-- With one line more behind them, the line feed of a line left open is one character more. -/
theorem length_joinWith_textLines_concat (text line : String) :
    (Text.joinWith "\n" (textLines text ++ [line])).length =
      text.length + line.length + if EndsOpen text then 1 else 0 := by
  have hjoined := length_joinWith_add_one
    (List.append_ne_nil_of_right_ne_nil (textLines text) (List.cons_ne_nil line []))
  rw [fedLength_concat, fedLength_textLines] at hjoined
  omega

/-! ### The output of print calls -/

namespace Sandbox.Capture

variable {limit : ℤ} {calls : List PrintCall}

/-- All calls are accepted if their whole text is within the limit. -/
theorem accepts_of_length_le (h : ((printed calls calls.length).length : ℤ) ≤ limit) :
    Accepts limit calls calls.length := by
  refine ⟨le_rfl, fun j _ hj => ?_⟩
  have hsplit : printed calls calls.length =
      printed calls j ++ String.join ((calls.drop j).map PrintCall.text) := by
    rw [printed, printed, ← String.join_append, ← List.map_append, List.take_append_drop,
      List.take_length]
  rw [hsplit, String.length_append] at h
  omega

/-- **When the output is within the limit.** The lines captured, joined by line feeds, have one
character more than the limit if the text of the print calls does not end with a line feed and has
exactly as many characters as the limit together with the error behind it. In all other cases they
are within the limit. -/
theorem length_output_le_iff (h : 0 ≤ limit) (calls : List PrintCall) (error : Option String) :
    let output := Text.joinWith "\n" (ofCalls limit calls error).lines
    (output.length : ℤ) ≤ limit + 1 ∧
      ((output.length : ℤ) ≤ limit ↔
        ¬∃ added ∈ error, EndsOpen (printed calls calls.length) ∧
          (((printed calls calls.length).length + added.length : ℕ) : ℤ) = limit) := by
  intro output
  obtain ⟨count, hgreatest, -⟩ := exists_foldl_print_eq limit calls
  have hheld : ((printed calls count).length : ℤ) ≤ limit := by
    rcases Nat.eq_zero_or_pos count with rfl | hpos
    · exact h
    · exact hgreatest.1.2 count hpos le_rfl
  have hlines := length_joinWith_textLines_le (printed calls count)
  have houtput : output.length =
      (Text.joinWith "\n" (ofCalls limit calls error).lines).length := rfl
  rw [ofCalls_eq hgreatest, finish_printed hgreatest.1.1] at houtput
  cases error with
  | none =>
    dsimp only at houtput
    exact ⟨by omega, iff_of_true (by omega) (by simp)⟩
  | some error =>
    dsimp only at houtput
    split_ifs at houtput with hadmits
    · obtain ⟨rfl, hfits⟩ := hadmits
      rw [length_joinWith_textLines_concat] at houtput
      simp only [Option.mem_def, Option.some.injEq, exists_eq_left']
      split_ifs at houtput with hopen
      · exact ⟨by omega, by simp only [hopen, true_and]; omega⟩
      · exact ⟨by omega, iff_of_true (by omega) (by simp [hopen])⟩
    · dsimp only at houtput
      refine ⟨by omega, iff_of_true (by omega) ?_⟩
      rintro ⟨added, hadded, -, hlength⟩
      obtain rfl := Option.some.inj hadded
      -- all calls would be accepted then, and the error with them
      have hall : count = calls.length := le_antisymm hgreatest.1.1
        (hgreatest.2 (accepts_of_length_le (by omega)))
      exact hadmits ⟨hall, by rw [hall]; exact hlength.le⟩

/-- A line left open, and an error that takes the last characters of the limit: together they have
one character more. -/
theorem error_behind_open_line_passes_limit :
    let calls : List PrintCall := [{ args := [.text "a"], ending := .text "" }]
    let output := Text.joinWith "\n" (ofCalls 9 calls (some "Error: x")).lines
    output = "a\nError: x" ∧ ¬(output.length : ℤ) ≤ 9 := by
  decide +kernel

/-- With one character more there is room for the line feed as well. -/
theorem error_behind_open_line_fits :
    let calls : List PrintCall := [{ args := [.text "a"], ending := .text "" }]
    (0 : ℤ) ≤ 10 ∧
      ((Text.joinWith "\n" (ofCalls 10 calls (some "Error: x")).lines).length : ℤ) ≤ 10 := by
  intro calls
  exact ⟨by decide, (length_output_le_iff (by decide) calls (some "Error: x")).2.2
    (by decide +kernel)⟩

end Sandbox.Capture
end Shellbox
