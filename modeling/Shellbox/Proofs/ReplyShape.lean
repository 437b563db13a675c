import Shellbox.Proofs.JsonRoundTrip
import Shellbox.Proofs.ReplyStream
/-!
# When a run has no result

Everything that can go wrong with a child is reported as an error of the run, but for one thing:
what a child says that comes through in time and ends well. If that is JSON, its shape is not looked
at before it is taken apart. A value that is no object, or an object whose output is null, a number,
a truth value or an array with anything else than texts in it, ends the run without a result, and so
does a whole number of too many digits. So do, before it is known whether there is any JSON to come,
more opening brackets than there is room for. An output that is missing, a text or an object is
taken for lines all the same. Only an error that counts as true, in an object, is reported as one.

`exists_execute_iff` says so of every child; `array_reply_has_no_result` is the smallest reply that
is lost, and `brackets_have_no_result` are those that are lost for their depth.
-/

namespace Shellbox.Sandbox

/-- The result of a child hangs on this text: it has started and come through in time, it has ended
well, and the bytes read from it are those of the text. -/
structure Child.Says (limits : Limits) (child : Child) (text : String) : Prop where
  started : child.startError = none
  inTime : child.hangs = false
  endedWell : child.returnCode = 0
  read : child.held limits = some text.toUTF8

variable {limits : Limits} {child : Child} {spare : ℕ}

/-- A child that has started has an outcome unless it says something without a result. -/
theorem exists_outcome_iff (hstart : child.startError = none) :
    (∃ result, child.outcome limits spare = .ok result) ↔
      ∀ text : String, child.Says limits text → HasResult (Json.read (spare + 2) text.toList) := by
  unfold Child.outcome
  cases hhangs : child.hangs with
  | true =>
    refine ⟨fun _ text hsaid => ?_, fun _ => ⟨_, rfl⟩⟩
    rw [hsaid.inTime] at hhangs
    cases hhangs
  | false =>
    rw [if_neg Bool.false_ne_true]
    cases hheld : child.held limits with
    | none =>
      refine ⟨fun _ text hsaid => ?_, fun _ => ⟨_, rfl⟩⟩
      rw [hsaid.read] at hheld
      cases hheld
    | some bytes =>
      dsimp only
      rw [exists_readReply_iff]
      refine forall_congr' fun text => ⟨fun h hsaid => ?_, fun h hcode hbytes => ?_⟩
      · refine h hsaid.endedWell ?_
        exact Option.some.inj (hheld.symm.trans hsaid.read)
      · exact h ⟨hstart, hhangs, hcode, by rw [hheld, hbytes]⟩

/-- The outcome of a child is what its text says. -/
theorem Child.Says.outcome {text : String} (h : child.Says limits text) :
    child.outcome limits spare = readReply 0 text.toUTF8 spare := by
  rw [Child.outcome, h.inTime, if_neg Bool.false_ne_true, h.read, h.endedWell]

/-- The results of a run of a child that has started are its outcomes. -/
theorem exists_run_iff (source : String) (spare : ℕ) {told : ChildLimits}
    (htold : limits.forChild? = some told) (hstart : child.startError = none)
    (p : Result → Prop) :
    (∃ run, execute source limits child spare = .ok run ∧ p run.result) ↔
      ∃ result, child.outcome limits spare = .ok result ∧ p result := by
  rw [execute_of_started htold hstart]
  cases child.outcome limits spare with
  | error fault => exact ⟨fun ⟨_, h, _⟩ => (by cases h), fun ⟨_, h, _⟩ => (by cases h)⟩
  | ok result =>
    constructor
    · rintro ⟨run, hrun, hp⟩
      obtain rfl := Except.ok.inj hrun
      exact ⟨result, rfl, hp⟩
    · rintro ⟨other, hother, hp⟩
      obtain rfl := Except.ok.inj hother
      exact ⟨_, rfl, hp⟩

/-- **When a run has no result.** A run with usable limits has a result, unless the child comes
through in time, ends well and says a text that is JSON but no answer, that holds a number of too
many digits, or in which arrays and objects are nested more deeply than there is room for, however
much there is. A JSON value is reported as an error exactly if it is an object with an error that
counts as true, and an error is reported without output. -/
theorem exists_execute_iff (source : String) (spare : ℕ) (husable : limits.Usable) :
    ((∃ run, execute source limits child spare = .ok run) ↔
        ∀ text : String, child.Says limits text →
          HasResult (Json.read (spare + 2) text.toList)) ∧
      (∀ (text : String) (value : Json), child.Says limits text →
        Json.read (spare + 2) text.toList = .ok value →
          ((∃ run, execute source limits child spare = .ok run ∧ run.result.error ≠ none) ↔
            ∃ members, value = .object members ∧ HasError members)) ∧
        ∀ run, execute source limits child spare = .ok run →
          run.result.error ≠ none → run.result.output = [] := by
  obtain ⟨told, htold⟩ := Limits.exists_forChild? husable.deadline
  cases hstart : child.startError with
  | some words =>
    have hrun : execute source limits child spare =
        .ok ⟨.failed ("Execution error: " ++ words), "", 0⟩ := by rw [execute, htold, hstart]
    have hsilent : ∀ text, ¬child.Says limits text := fun text h => by
      rw [h.started] at hstart
      cases hstart
    refine ⟨⟨fun _ text h => absurd h (hsilent text), fun _ => ⟨_, hrun⟩⟩,
      fun text _ h => absurd h (hsilent text), fun run h => ?_⟩
    rw [hrun] at h
    obtain rfl := Except.ok.inj h
    exact Result.clear_failed _
  | none =>
    refine ⟨?_, fun text value hsaid hread => ?_, fun run hrun => ?_⟩
    · have hresults := exists_run_iff source spare htold hstart fun _ => True
      simp only [and_true] at hresults
      rw [hresults, exists_outcome_iff hstart]
    · rw [exists_run_iff source spare htold hstart fun result => result.error ≠ none,
        hsaid.outcome, exists_readReply_error_iff hread]
    · obtain ⟨result, houtcome, hsame⟩ :=
        (exists_run_iff source spare htold hstart fun result => result = run.result).1
          ⟨run, hrun, rfl⟩
      rw [← hsame]
      exact Child.clear_of_outcome houtcome

/-- A run whose child answers with an object whose output is null has no result. -/
theorem null_output_has_no_result :
    let limits : Limits := {}
    let child : Child := { chunks := ["\x7b\"output\": null\x7d".toUTF8] }
    limits.Usable ∧ ¬∃ run, execute "" limits child 0 = .ok run := by
  intro limits child
  have husable : limits.Usable :=
    ⟨by decide +kernel, by decide +kernel, by decide +kernel, by decide +kernel⟩
  refine ⟨husable, fun hrun => ?_⟩
  let reply : Json := .ofMembers [("output", .null)]
  have hsaid : child.Says limits reply.toPlain := ⟨rfl, rfl, rfl, by decide +kernel⟩
  have hproper : reply.Proper :=
    ⟨List.nodup_singleton _, Json.proper_ofString "output", trivial, trivial⟩
  have hresult := (exists_execute_iff "" 0 husable).1.1 hrun _ hsaid
  rw [Json.read_toPlain hproper (by decide)] at hresult
  rcases hresult with herror | houtput
  · cases herror
  · exact houtput .null rfl

/-- A run whose child answers with an empty array has no result. -/
theorem array_reply_has_no_result :
    execute "" {} { chunks := [⟨#[91, 93]⟩] } usualSpare = .error (.notAnObject "list") := by
  decide +kernel

/-- A run whose child answers with more opening brackets than there is room for has no result,
whatever it says behind them. -/
theorem brackets_have_no_result (source : String) {told : ChildLimits} {rest : String}
    (htold : limits.forChild? = some told)
    (hsaid : child.Says limits (String.ofList (List.replicate (spare + 3) '[') ++ rest)) :
    execute source limits child spare = .error (.tooDeep "array") := by
  rw [execute_of_started htold hsaid.started, hsaid.outcome, readReply_toUTF8, String.toList_append,
    String.toList_ofList, Json.read_brackets]
  rfl

end Shellbox.Sandbox
