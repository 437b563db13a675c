import Mathlib.Data.List.Basic
import Mathlib.Data.List.Induction
import Mathlib.Order.Bounds.Basic
import Mathlib.Tactic.IntervalCases
import Mathlib.Tactic.SplitIfs
import Shellbox.Sandbox.Capture
/-!
# What is captured of print calls

The lines of a capture and its pending text come from one text, all that was accepted, cut at its
line feeds (`Capture.holding`). An accepted print call goes on from the pending text, which is the
last piece, and leaves the capture that holds the longer text (`Capture.print_holding`).

Print calls are accepted as long as their texts are within the limit together (`Accepts`), and the
first one that is refused is the last one that counts. So after any print calls the capture holds the
text of the longest run of accepted calls (`Capture.exists_foldl_print_eq`), and the lines after
finishing are those of this text, with the error behind them if nothing was refused and there is
room for it (`Capture.ofCalls_content`).
-/

namespace Shellbox

/-- Cutting a longer text goes on from the last piece. -/
theorem Text.pieces_append_of_getLast? {α : Type} [DecidableEq α] {sep : α} {text last : List α}
    (h : (pieces sep text).getLast? = some last) (more : List α) :
    pieces sep (text ++ more) = (pieces sep text).dropLast ++ pieces sep (last ++ more) := by
  induction text generalizing last with
  | nil =>
    obtain rfl : [] = last := by simpa [pieces] using h
    rfl
  | cons c rest ih =>
    obtain ⟨first, others, hrest⟩ := List.exists_cons_of_ne_nil (pieces_ne_nil sep rest)
    by_cases hc : c = sep
    · have hlast : (pieces sep rest).getLast? = some last := by
        rw [pieces, if_pos hc, hrest, List.getLast?_cons_cons] at h
        rwa [hrest]
      rw [List.cons_append, pieces, if_pos hc, ih hlast, pieces, if_pos hc, hrest,
        List.dropLast_cons_cons, List.cons_append]
    · rw [List.cons_append, pieces, if_neg hc]
      simp only [pieces, if_neg hc, hrest] at h ⊢
      cases others with
      | nil =>
        -- the text has no separator yet, so all of it goes on
        obtain rfl : c :: first = last := by simpa using h
        rw [ih (by rw [hrest]; rfl), hrest, List.cons_append, pieces, if_neg hc]
        rfl
      | cons second others =>
        rw [List.getLast?_cons_cons] at h
        rw [ih (by rw [hrest, List.getLast?_cons_cons]; exact h), hrest]
        rfl

/-- The pieces of a text between its line feeds. -/
def linePieces (text : String) : List String := (Text.pieces '\n' text.toList).map String.ofList

/-- The lines of a text: its pieces, without the last one if that is empty. -/
def textLines (text : String) : List String :=
  if (linePieces text).getLast? = some "" then (linePieces text).dropLast else linePieces text

theorem linePieces_ne_nil (text : String) : linePieces text ≠ [] := fun h =>
  Text.pieces_ne_nil '\n' text.toList (List.map_eq_nil_iff.1 h)

theorem exists_getLast?_linePieces (text : String) :
    ∃ last, (linePieces text).getLast? = some last :=
  ⟨_, List.getLast?_eq_some_getLast (linePieces_ne_nil text)⟩

theorem linePieces_append {text last : String} (h : (linePieces text).getLast? = some last)
    (more : String) :
    linePieces (text ++ more) = (linePieces text).dropLast ++ linePieces (last ++ more) := by
  unfold linePieces at h ⊢
  rw [List.getLast?_map, Option.map_eq_some_iff] at h
  obtain ⟨piece, hpiece, rfl⟩ := h
  rw [String.toList_append, Text.pieces_append_of_getLast? hpiece, List.map_append,
    List.map_dropLast, String.toList_append, String.toList_ofList]

namespace Sandbox

/-! ### The capture that holds a text -/

namespace Capture

variable {limit : ℤ} {text : String}

/-- The capture that holds a text, after a print call was refused or not. -/
def holding (text : String) (truncated : Bool) : Capture where
  lines := (linePieces text).dropLast
  pending := (linePieces text).getLast?.getD ""
  size := text.length
  truncated := truncated

theorem holding_empty : holding "" false = {} := by decide

/-- A print call goes on from the text held if it is within the limit, and is refused otherwise. -/
theorem print_holding (limit : ℤ) (text more : String) :
    (holding text false).print limit more =
      if ((text ++ more).length : ℤ) ≤ limit then holding (text ++ more) false
      else holding text true := by
  obtain ⟨last, hlast⟩ := exists_getLast?_linePieces text
  have hne := linePieces_ne_nil (last ++ more)
  rw [String.length_append]
  unfold print accept
  simp only [holding, hlast, Option.getD_some, Bool.false_eq_true, if_false]
  split_ifs with hpassed hfits hfits
  · omega
  · rfl
  · simp only [linePieces_append hlast, List.dropLast_append_of_ne_nil hne, List.getLast?_append,
      List.getLast?_eq_some_getLast hne, Option.some_or, String.length_append, mk.injEq, and_true]
    exact ⟨rfl, congrArg (·.getD "") (List.getLast?_eq_some_getLast hne)⟩
  · omega

/-- After a refusal nothing is captured any more. -/
theorem print_of_truncated {capture : Capture} (h : capture.truncated = true) (more : String) :
    capture.print limit more = capture := by
  unfold print accept
  rw [if_pos h]

/-- The text held becomes lines. -/
theorem settle_holding (text : String) (truncated : Bool) :
    (holding text truncated).settle = ⟨textLines text, "", text.length, truncated⟩ := by
  obtain ⟨last, hlast⟩ := exists_getLast?_linePieces text
  unfold settle textLines
  simp only [holding, hlast, Option.getD_some, Option.some.injEq]
  split_ifs with hempty
  · rw [hempty]
  · rw [List.dropLast_append_getLast? last hlast]

/-- An error is a line behind those of the text held if nothing was refused and it is within the
limit together with the text, and is refused otherwise. -/
theorem finish_holding (limit : ℤ) (text : String) (truncated : Bool) (error : Option String) :
    (holding text truncated).finish limit error =
      match error with
      | none => ⟨textLines text, "", text.length, truncated⟩
      | some error =>
        if truncated = false ∧ ((text.length + error.length : ℕ) : ℤ) ≤ limit then
          ⟨textLines text ++ [error], "", text.length + error.length, false⟩
        else ⟨textLines text, "", text.length, true⟩ := by
  unfold finish
  rw [settle_holding]
  cases error with
  | none => rfl
  | some error =>
    unfold accept
    cases truncated with
    | true => simp
    | false =>
      by_cases hfits : ((text.length + error.length : ℕ) : ℤ) ≤ limit
      · simp only [hfits, not_lt.2 hfits, Bool.false_eq_true, if_false, if_true, true_and]
      · simp only [hfits, not_le.1 hfits, Bool.false_eq_true, if_false, if_true, and_false]

end Capture

/-! ### Print calls -/

/-- The text of the first print calls of a list. -/
def printed (calls : List PrintCall) (count : ℕ) : String :=
  String.join ((calls.take count).map PrintCall.text)

/-- Whether the first print calls of a list are all accepted: each of them is within the limit
together with those before it. -/
def Accepts (limit : ℤ) (calls : List PrintCall) (count : ℕ) : Prop :=
  count ≤ calls.length ∧ ∀ j, 0 < j → j ≤ count → ((printed calls j).length : ℤ) ≤ limit

/-- Whether an error is captured behind the first print calls of a list: they are all there are, and
it is within the limit together with them. -/
def Admits (limit : ℤ) (calls : List PrintCall) (count : ℕ) (error : String) : Prop :=
  count = calls.length ∧ (((printed calls count).length + error.length : ℕ) : ℤ) ≤ limit

instance (limit : ℤ) (calls : List PrintCall) (count : ℕ) (error : String) :
    Decidable (Admits limit calls count error) :=
  inferInstanceAs (Decidable (_ ∧ _))

section Calls

variable {limit : ℤ} {calls : List PrintCall} {count : ℕ}

theorem printed_append_of_le (h : count ≤ calls.length) (more : List PrintCall) :
    printed (calls ++ more) count = printed calls count := by
  rw [printed, List.take_append_of_le_length h, printed]

theorem printed_concat (calls : List PrintCall) (call : PrintCall) :
    printed (calls ++ [call]) (calls.length + 1) = printed calls calls.length ++ call.text := by
  rw [printed, List.take_of_length_le (by simp), printed, List.take_length, List.map_append,
    String.join_append, List.map_singleton, String.join_cons, String.join_nil, String.append_empty]

theorem Accepts.mono (h : Accepts limit calls count) {fewer : ℕ} (hfewer : fewer ≤ count) :
    Accepts limit calls fewer :=
  ⟨hfewer.trans h.1, fun j hpos hj => h.2 j hpos (hj.trans hfewer)⟩

/-- Whether a call is accepted does not depend on the calls behind it. -/
theorem accepts_append_iff (h : count ≤ calls.length) (more : List PrintCall) :
    Accepts limit (calls ++ more) count ↔ Accepts limit calls count := by
  have hlength : count ≤ (calls ++ more).length := by
    rw [List.length_append]
    omega
  refine and_congr (iff_of_true hlength h) (forall₃_congr fun j _ hj => ?_)
  rw [printed_append_of_le (hj.trans h)]

/-- After a call that is refused, the calls that are accepted stay the same. -/
theorem isGreatest_append (hgreatest : IsGreatest {count | Accepts limit calls count} count)
    (hcount : count < calls.length) (more : List PrintCall) :
    IsGreatest {count | Accepts limit (calls ++ more) count} count := by
  refine ⟨(accepts_append_iff hcount.le more).2 hgreatest.1, fun other hother => ?_⟩
  by_contra hlater
  have hnext : Accepts limit calls (count + 1) :=
    (accepts_append_iff hcount more).1 (hother.mono (Nat.lt_of_not_le hlater))
  exact absurd (hgreatest.2 hnext) (by omega)

namespace Capture

/-- **What print calls leave captured.** After any print calls, the text of the longest run of calls
from the start that are all accepted is held, and something was refused unless these are all. -/
theorem exists_foldl_print_eq (limit : ℤ) (calls : List PrintCall) :
    ∃ count, IsGreatest {count | Accepts limit calls count} count ∧
      calls.foldl (fun capture call => capture.print limit call.text) {} =
        holding (printed calls count) (decide (count < calls.length)) := by
  -- from the end, since a call goes on from what all calls before it have left
  induction calls using List.reverseRecOn with
  | nil =>
    exact ⟨0, ⟨⟨le_rfl, fun j hpos hj => absurd hpos (by omega)⟩, fun count h => h.1⟩,
      holding_empty.symm⟩
  | append_singleton calls call ih =>
    obtain ⟨count, hgreatest, hfold⟩ := ih
    rw [List.foldl_append, hfold, List.foldl_cons, List.foldl_nil, List.length_append,
      List.length_singleton]
    rcases hgreatest.1.1.lt_or_eq with hrefused | rfl
    · refine ⟨count, isGreatest_append hgreatest hrefused [call], ?_⟩
      rw [printed_append_of_le hrefused.le, decide_eq_true hrefused,
        decide_eq_true (by omega : count < calls.length + 1), print_of_truncated rfl]
    · rw [decide_eq_false (lt_irrefl _), print_holding, ← printed_concat]
      split_ifs with hfits
      · refine ⟨calls.length + 1, ⟨⟨by simp, fun j hpos hj => ?_⟩, fun other h => ?_⟩, ?_⟩
        · rcases hj.lt_or_eq with hj | rfl
          · rw [printed_append_of_le (by omega)]
            exact hgreatest.1.2 j hpos (by omega)
          · exact hfits
        · simpa using h.1
        · rw [decide_eq_false (lt_irrefl _)]
      · refine ⟨calls.length, ⟨(accepts_append_iff le_rfl _).2 hgreatest.1, fun other h => ?_⟩, ?_⟩
        · by_contra hlater
          exact hfits ((h.mono (Nat.lt_of_not_le hlater)).2 _ (by omega) le_rfl)
        · rw [printed_append_of_le le_rfl, decide_eq_true (by omega)]

/-- Finished print calls, when it is known which of them are accepted. -/
theorem ofCalls_eq (h : IsGreatest {count | Accepts limit calls count} count)
    (error : Option String) :
    ofCalls limit calls error =
      (holding (printed calls count) (decide (count < calls.length))).finish limit error := by
  obtain ⟨other, hother, hfold⟩ := exists_foldl_print_eq limit calls
  rw [ofCalls, hfold, hother.unique h]

/-- What finishing makes of the text of the accepted calls. -/
theorem finish_printed (hcount : count ≤ calls.length) (limit : ℤ) (error : Option String) :
    (holding (printed calls count) (decide (count < calls.length))).finish limit error =
      match error with
      | none => ⟨textLines (printed calls count), "", (printed calls count).length,
          decide (count < calls.length)⟩
      | some error =>
        if Admits limit calls count error then
          ⟨textLines (printed calls count) ++ [error], "",
            (printed calls count).length + error.length, false⟩
        else ⟨textLines (printed calls count), "", (printed calls count).length, true⟩ := by
  rw [finish_holding]
  cases error with
  | none => rfl
  | some error =>
    refine if_congr (and_congr_left fun _ => ?_) rfl rfl
    rw [decide_eq_false_iff_not, hcount.lt_iff_ne, not_not]

/-- **The exact content of a capture.** Print calls are accepted as long as all texts up to them
are within the limit together. The lines are those of the accepted texts put one behind the other,
and an error is one line more if all calls were accepted and the error is within the limit as well.
What is captured is truncated exactly if a call or the error was refused. So it does not matter how
the accepted text was cut into calls, and nothing that is printed after a refusal is captured. -/
theorem ofCalls_content (limit : ℤ) (calls : List PrintCall) (error : Option String) :
    ∃ count, IsGreatest {count | Accepts limit calls count} count ∧
      (ofCalls limit calls error).lines =
        textLines (printed calls count) ++
          error.toList.filter (fun error => Admits limit calls count error) ∧
      ((ofCalls limit calls error).truncated = true ↔
        count < calls.length ∨ ∃ refused ∈ error, ¬Admits limit calls count refused) ∧
      (∀ others otherCount, IsGreatest {count | Accepts limit others count} otherCount →
        printed others otherCount = printed calls count →
          (otherCount = others.length ↔ count = calls.length) →
            ofCalls limit others error = ofCalls limit calls error) ∧
      (count < calls.length → ∀ later,
        ofCalls limit (calls ++ later) error = ofCalls limit calls error) := by
  obtain ⟨count, hgreatest, -⟩ := exists_foldl_print_eq limit calls
  have hfinish := finish_printed hgreatest.1.1 limit error
  refine ⟨count, hgreatest, ?_, ?_, fun others otherCount hothers htext hcount => ?_,
    fun hrefused later => ?_⟩
  · rw [ofCalls_eq hgreatest, hfinish]
    cases error with
    | none => exact (List.append_nil _).symm
    | some error => by_cases hadmits : Admits limit calls count error <;> simp [hadmits]
  · rw [ofCalls_eq hgreatest, hfinish]
    cases error with
    | none => simp
    | some error =>
      by_cases hadmits : Admits limit calls count error
      · have hall : ¬count < calls.length := hadmits.1.ge.not_gt
        simp [hadmits, hall]
      · simp [hadmits]
  · have hrefused : otherCount < others.length ↔ count < calls.length := by
      rw [hothers.1.1.lt_iff_ne, hgreatest.1.1.lt_iff_ne, Ne, Ne, hcount]
    rw [ofCalls_eq hothers, ofCalls_eq hgreatest, htext, decide_eq_decide.2 hrefused]
  · have hmore : count < (calls ++ later).length := by
      rw [List.length_append]
      omega
    rw [ofCalls_eq (isGreatest_append hgreatest hrefused later), ofCalls_eq hgreatest,
      printed_append_of_le hrefused.le, decide_eq_true hmore, decide_eq_true hrefused]

/-- The third call is refused. Whether the text of the first two came in two calls or in one, and
what is printed later, makes no difference. -/
theorem recut_calls_capture_same :
    let calls : List PrintCall :=
      [{ args := [.text "a"], ending := .text "" }, { args := [.text "b\nc"] },
        { args := [.text "long"] }]
    let others : List PrintCall := [{ args := [.text "ab\nc"] }, { args := [.text "other"] }]
    let later : List PrintCall := [{ args := [] }]
    IsGreatest {count | Accepts 8 calls count} 2 ∧ IsGreatest {count | Accepts 8 others count} 1 ∧
      printed others 1 = printed calls 2 ∧ (1 = others.length ↔ 2 = calls.length) ∧
        2 < calls.length ∧
      (ofCalls 8 calls none).lines = ["ab", "c"] ∧ (ofCalls 8 calls none).truncated = true ∧
        ofCalls 8 others none = ofCalls 8 calls none ∧
          ofCalls 8 (calls ++ later) none = ofCalls 8 calls none := by
  intro calls others later
  have hcalls : IsGreatest {count | Accepts 8 calls count} 2 := by
    refine ⟨⟨by decide, fun j hpos hj => ?_⟩, fun count h => ?_⟩
    · interval_cases j <;> decide +kernel
    · by_contra hmore
      exact absurd (h.2 3 (by decide) (Nat.lt_of_not_le hmore)) (by decide +kernel)
  have hothers : IsGreatest {count | Accepts 8 others count} 1 := by
    refine ⟨⟨by decide, fun j hpos hj => ?_⟩, fun count h => ?_⟩
    · interval_cases j
      decide +kernel
    · by_contra hmore
      exact absurd (h.2 2 (by decide) (Nat.lt_of_not_le hmore)) (by decide +kernel)
  have htext : printed others 1 = printed calls 2 := by decide +kernel
  have hcount : 1 = others.length ↔ 2 = calls.length := by decide
  obtain ⟨count, hgreatest, hlines, htruncated, hcut, hlater⟩ := ofCalls_content 8 calls none
  obtain rfl := hgreatest.unique hcalls
  refine ⟨hcalls, hothers, htext, hcount, by decide, hlines.trans ?_,
    htruncated.2 (Or.inl (by decide)), hcut others 1 hothers htext hcount, hlater (by decide) later⟩
  decide +kernel

end Capture

end Calls

end Sandbox
end Shellbox
