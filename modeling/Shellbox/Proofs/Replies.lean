import Mathlib.Data.List.Basic
import Mathlib.Tactic.SplitIfs
import Shellbox.Sandbox.Reply
/-!
# Which replies have a result

A child answers with an object, but what comes from it may be anything. Bytes that are no text, or a
text that is no JSON, have a result: an error in fixed words. A JSON value has one if it is an
answer (`IsAnswer`): an object whose error counts as true, or else whose output can be taken for
lines, which an output that is missing, a text or another object can be as well. For any other value
there is none, and neither is there for a whole number of too many digits or for arrays and objects
that are nested too deeply (`exists_readReply_iff`).

A value is reported as an error only if it is an object with an error that counts as true
(`exists_readReply_error_iff`), and an error is reported without output (`clear_of_readReply`).
-/

namespace Shellbox.Sandbox

/-! ### Output -/

/-- What can be taken for lines: an array of texts, the characters of a text, the keys of an
object. -/
def IsOutput : Json → Prop
  | .array items => ∃ lines : List Codes, items = lines.map .text
  | .text _ | .object _ => True
  | _ => False

theorem outputLines_texts (index : Nat) (lines : List Codes) :
    outputLines index (lines.map .text) = .ok lines := by
  induction lines generalizing index with
  | nil => rfl
  | cons line rest ih =>
    rw [List.map_cons, outputLines, ih]
    rfl

/-- Lines come out only of texts. -/
theorem eq_of_outputLines {index : Nat} {values : List Json} {lines : List Codes}
    (h : outputLines index values = .ok lines) : values = lines.map .text := by
  induction values generalizing index lines with
  | nil =>
    obtain rfl := Except.ok.inj h
    rfl
  | cons value rest ih =>
    cases value with
    | text codes =>
      rw [outputLines] at h
      cases hrest : outputLines (index + 1) rest with
      | error fault => rw [hrest] at h; cases h
      | ok others =>
        rw [hrest] at h
        obtain rfl := Except.ok.inj h
        rw [List.map_cons, ← ih hrest]
    | _ => cases h

/-- The parts of an output that can be taken for lines are these lines, and no other output has
parts that are all texts. -/
theorem isOutput_iff (output : Json) :
    IsOutput output ↔ ∃ lines : List Codes, outputParts output = .ok (lines.map .text) := by
  cases output with
  | array items =>
    refine exists_congr fun lines => ⟨fun h => h ▸ rfl, fun h => Except.ok.inj h⟩
  | text codes =>
    exact ⟨fun _ => ⟨codes.map fun n => [n], by rw [List.map_map]; rfl⟩, fun _ => trivial⟩
  | object members =>
    exact ⟨fun _ => ⟨members.map Prod.fst, by rw [List.map_map]; rfl⟩, fun _ => trivial⟩
  | null | bool _ | int _ | real _ => exact ⟨False.elim, fun ⟨_, h⟩ => by cases h⟩

/-! ### The members of a reply -/

/-- The mark behind an output of which there was more. -/
def marks (members : List (Codes × Json)) : List Codes :=
  (((member? "truncated" members).filter Json.isTrue).map fun _ =>
    Codes.ofString truncationMark).toList

/-- Whether there is an error that counts as true. -/
def HasError (members : List (Codes × Json)) : Prop :=
  ((member? "error" members).filter Json.isTrue).isSome

variable {members : List (Codes × Json)} {result : Result}

/-- The result of a reply that has one: the error that counts as true, or the lines of the output
with the mark behind them. -/
theorem resultOf_eq_ok_iff :
    resultOf members = .ok result ↔
      (∃ error, (member? "error" members).filter Json.isTrue = some error ∧
          result = ⟨[], some (Codes.ofString "Execution error: " ++ error.display)⟩) ∨
        (member? "error" members).filter Json.isTrue = none ∧
          ∃ lines : List Codes,
            outputParts ((member? "output" members).getD (.array [])) = .ok (lines.map .text) ∧
              result = ⟨Codes.joinWith "\n" (lines ++ marks members), none⟩ := by
  cases herror : (member? "error" members).filter Json.isTrue with
  | some error =>
    have hresult : resultOf members =
        .ok ⟨[], some (Codes.ofString "Execution error: " ++ error.display)⟩ := by
      unfold resultOf
      rw [herror]
      rfl
    rw [hresult, Except.ok.injEq]
    exact ⟨fun h => Or.inl ⟨error, rfl, h.symm⟩, by
      rintro (⟨_, hsome, rfl⟩ | ⟨hnone, -⟩)
      · rw [Option.some.inj hsome]
      · cases hnone⟩
  | none =>
    have hmarks : (((member? "truncated" members).filter Json.isTrue).map fun _ =>
        Json.ofString truncationMark).toList = (marks members).map .text := by
      unfold marks
      cases (member? "truncated" members).filter Json.isTrue <;> rfl
    have hresult : resultOf members =
        (outputParts ((member? "output" members).getD (.array []))).bind fun parts =>
          (outputLines 0 (parts ++ (marks members).map .text)).bind fun lines =>
            .ok ⟨Codes.joinWith "\n" lines, none⟩ := by
      unfold resultOf
      rw [herror, ← hmarks]
      rfl
    rw [hresult]
    constructor
    · intro h
      cases hparts : outputParts ((member? "output" members).getD (.array [])) with
      | error fault => rw [hparts] at h; cases h
      | ok parts =>
        rw [hparts, Except.bind] at h
        cases hlines : outputLines 0 (parts ++ (marks members).map .text) with
        | error fault => rw [hlines] at h; cases h
        | ok lines =>
          rw [hlines] at h
          obtain ⟨front, mark, rfl, hfront, hmark⟩ :=
            List.append_eq_map_iff.1 (eq_of_outputLines hlines)
          have hinj : Function.Injective Json.text := fun _ _ => Json.text.inj
          rw [← List.map_injective_iff.2 hinj hmark]
          exact Or.inr ⟨rfl, front, by rw [hfront], (Except.ok.inj h).symm⟩
    · rintro (⟨_, hsome, -⟩ | ⟨-, lines, hparts, rfl⟩)
      · cases hsome
      · rw [hparts, Except.bind, ← List.map_append, outputLines_texts]
        rfl

/-- Values for which there is a result. -/
def IsAnswer : Json → Prop
  | .object members =>
    HasError members ∨ ∀ output ∈ member? "output" members, IsOutput output
  | _ => False

theorem exists_resultOf_iff :
    (∃ result, resultOf members = .ok result) ↔ IsAnswer (.object members) := by
  have houtput : (∀ output ∈ member? "output" members, IsOutput output) ↔
      IsOutput ((member? "output" members).getD (.array [])) := by
    cases member? "output" members with
    | none => exact ⟨fun _ => ⟨[], rfl⟩, fun _ _ h => by cases h⟩
    | some output => exact ⟨fun h => h output rfl, fun h _ he => Option.some.inj he ▸ h⟩
  rw [IsAnswer, houtput, isOutput_iff]
  simp only [resultOf_eq_ok_iff, HasError]
  cases (member? "error" members).filter Json.isTrue with
  | some error => exact ⟨fun _ => Or.inl rfl, fun _ => ⟨_, Or.inl ⟨error, rfl, rfl⟩⟩⟩
  | none =>
    constructor
    · rintro ⟨result, ⟨_, hsome, -⟩ | ⟨-, lines, hlines, -⟩⟩
      · cases hsome
      · exact Or.inr ⟨lines, hlines⟩
    · rintro (hsome | ⟨lines, hlines⟩)
      · cases hsome
      · exact ⟨_, Or.inr ⟨rfl, lines, hlines, rfl⟩⟩

/-- A result with an error has no output. -/
def Result.Clear (result : Result) : Prop := result.error ≠ none → result.output = []

theorem Result.clear_failed (words : String) : (Result.failed words).Clear := fun _ => rfl

/-- There is an error in the result exactly if there is one in the reply, and then no output. -/
theorem error_of_resultOf (h : resultOf members = .ok result) :
    (result.error ≠ none ↔ HasError members) ∧ result.Clear := by
  unfold HasError
  rcases resultOf_eq_ok_iff.1 h with ⟨error, herror, rfl⟩ | ⟨herror, lines, -, rfl⟩
  · rw [herror]
    exact ⟨⟨fun _ => rfl, fun _ => Option.some_ne_none _⟩, fun _ => rfl⟩
  · rw [herror]
    exact ⟨⟨fun hne => absurd rfl hne, fun hsome => by cases hsome⟩, fun hne => absurd rfl hne⟩

/-! ### The bytes of a reply -/

theorem fromUTF8?_toUTF8 (text : String) : String.fromUTF8? text.toUTF8 = some text := by
  unfold String.fromUTF8?
  rw [dif_pos (show text.toUTF8.IsValidUTF8 from text.isValidUTF8)]
  rfl

theorem eq_toUTF8_of_fromUTF8? {bytes : ByteArray} {text : String}
    (h : String.fromUTF8? bytes = some text) : bytes = text.toUTF8 := by
  unfold String.fromUTF8? at h
  split_ifs at h
  obtain rfl := Option.some.inj h
  rfl

/-- What is read from a text and has a result: no JSON at all, or an answer. -/
def HasResult : Except Json.ReadError Json → Prop
  | .error .malformed => True
  | .error (.tooManyDigits _) => False
  | .error (.tooDeep _) => False
  | .ok value => IsAnswer value

theorem readReply_toUTF8 (text : String) (spare : Nat) :
    readReply 0 text.toUTF8 spare =
      match Json.read (spare + 2) text.toList with
      | .error .malformed => .ok malformed
      | .error (.tooManyDigits count) => .error (.tooManyDigits count)
      | .error (.tooDeep kind) => .error (.tooDeep kind)
      | .ok (.object members) => resultOf members
      | .ok value => .error (.notAnObject value.kindName) := by
  have hdecoded := fromUTF8?_toUTF8 text
  unfold readReply
  generalize String.fromUTF8? text.toUTF8 = decoded at hdecoded ⊢
  subst hdecoded
  rfl

/-- **Which bytes have a result.** All but those of a text, from a child that ended well, that is
JSON without being an answer, holds a number of too many digits, or is nested too deeply. -/
theorem exists_readReply_iff {code : Int} {bytes : ByteArray} {spare : Nat} :
    (∃ result, readReply code bytes spare = .ok result) ↔
      ∀ text : String, code = 0 → bytes = text.toUTF8 →
        HasResult (Json.read (spare + 2) text.toList) := by
  by_cases hcode : code = 0
  · subst hcode
    cases htext : String.fromUTF8? bytes with
    | none =>
      refine ⟨fun _ text _ hbytes => ?_, fun _ => ⟨malformed, ?_⟩⟩
      · rw [hbytes, fromUTF8?_toUTF8] at htext
        cases htext
      · rw [readReply, if_neg (not_not.2 rfl), htext]
    | some text =>
      obtain rfl := eq_toUTF8_of_fromUTF8? htext
      have hone : (∀ other : String, (0 : Int) = 0 → text.toUTF8 = other.toUTF8 →
          HasResult (Json.read (spare + 2) other.toList)) ↔
            HasResult (Json.read (spare + 2) text.toList) :=
        ⟨fun h => h text rfl rfl, fun h other _ he => String.toByteArray_inj.1 he ▸ h⟩
      rw [hone, readReply_toUTF8]
      cases Json.read (spare + 2) text.toList with
      | error cause =>
        cases cause with
        | malformed => exact ⟨fun _ => trivial, fun _ => ⟨_, rfl⟩⟩
        | tooManyDigits count => exact ⟨fun ⟨_, h⟩ => (by cases h), False.elim⟩
        | tooDeep kind => exact ⟨fun ⟨_, h⟩ => (by cases h), False.elim⟩
      | ok value =>
        cases value with
        | object members => exact exists_resultOf_iff
        | _ => exact ⟨fun ⟨_, h⟩ => (by cases h), False.elim⟩
  · refine ⟨fun _ _ h => absurd h hcode, fun _ => ⟨.failed (endingWords code), ?_⟩⟩
    rw [readReply, if_pos hcode]

/-- A JSON value is reported as an error exactly if it is an object with an error that counts as
true. -/
theorem exists_readReply_error_iff {text : String} {value : Json} {spare : Nat}
    (hread : Json.read (spare + 2) text.toList = .ok value) :
    (∃ result, readReply 0 text.toUTF8 spare = .ok result ∧ result.error ≠ none) ↔
      ∃ members, value = .object members ∧ HasError members := by
  rw [readReply_toUTF8, hread]
  cases value with
  | object members =>
    constructor
    · rintro ⟨result, hresult, herror⟩
      exact ⟨members, rfl, (error_of_resultOf hresult).1.1 herror⟩
    · rintro ⟨others, hsame, herror⟩
      obtain rfl := Json.object.inj hsame
      obtain ⟨result, hresult⟩ := exists_resultOf_iff.2 (Or.inl herror)
      exact ⟨result, hresult, (error_of_resultOf hresult).1.2 herror⟩
  | _ => exact ⟨fun ⟨_, h, _⟩ => (by cases h), fun ⟨_, h, _⟩ => (by cases h)⟩

/-- An error is reported without output. -/
theorem clear_of_readReply {code : Int} {bytes : ByteArray} {spare : Nat}
    (h : readReply code bytes spare = .ok result) : result.Clear := by
  unfold readReply at h
  split_ifs at h with hcode
  · obtain rfl := Except.ok.inj h
    exact Result.clear_failed _
  · split at h
    · obtain rfl := Except.ok.inj h
      exact Result.clear_failed _
    · split at h
      · obtain rfl := Except.ok.inj h
        exact Result.clear_failed _
      · cases h
      · cases h
      · exact (error_of_resultOf h).2
      · cases h

end Shellbox.Sandbox
