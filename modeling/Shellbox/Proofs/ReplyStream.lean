import Shellbox.Proofs.Replies
import Shellbox.Proofs.Rounding
import Shellbox.Sandbox.Child
/-!
# The outcome of a run for every child

The parent reads the reply of a child in chunks, and gives up in the middle once the limit is
passed. Where the chunks end makes no difference: as long as nothing is given up the bytes held are
all that were written, so in the end they are held if and only if they are few enough altogether
(`collect_eq`), and at no time there are more of them than the limit (`size_le_of_collect`).

So a child counts for the bytes that it wrote, its return code and whether it was late, and for
nothing else. `outcome_of_started` gives the result and the number of kills in these terms. A
deadline that has a double as a number of milliseconds has one as a number of seconds, so that such
a child does get started (`Limits.exists_forChild?`).
-/

namespace Shellbox.Sandbox

/-- The bytes of chunks one behind the other. -/
def joinedBytes : List ByteArray → ByteArray
  | [] => .empty
  | chunk :: rest => chunk ++ joinedBytes rest

/-- All that a child writes. -/
def Child.written (child : Child) : ByteArray := joinedBytes child.chunks

/-! ### Reading -/

section Reading

variable {limit : ℤ} {held bytes : ByteArray} {chunks : List ByteArray}

/-- Behind the bytes held, chunks are read into one piece, if it does not become too large. -/
theorem collect_eq (hheld : (held.size : ℤ) ≤ limit) (hchunks : ∀ chunk ∈ chunks, chunk ≠ .empty) :
    collect limit held chunks =
      if limit < (held ++ joinedBytes chunks).size then none
      else some (held ++ joinedBytes chunks) := by
  induction chunks generalizing held with
  | nil => rw [joinedBytes, ByteArray.append_empty, if_neg (not_lt.2 hheld), collect]
  | cons chunk rest ih =>
    obtain ⟨hchunk, hrest⟩ := List.forall_mem_cons.1 hchunks
    have hempty : ¬chunk.isEmpty := by
      rwa [ByteArray.isEmpty, beq_iff_eq, ByteArray.size_eq_zero_iff]
    rw [collect, if_neg hempty, joinedBytes, ← ByteArray.append_assoc]
    split_ifs with hpassed htotal htotal
    · rfl
    · -- what comes behind a chunk that passes the limit does not take anything back
      rw [ByteArray.size_append, ByteArray.size_append] at htotal
      omega
    · rw [ih (by rw [ByteArray.size_append]; omega) hrest, if_pos htotal]
    · rw [ih (by rw [ByteArray.size_append]; omega) hrest, if_neg htotal]

/-- The bytes held are never more than the limit. -/
theorem size_le_of_collect (hheld : (held.size : ℤ) ≤ limit)
    (h : collect limit held chunks = some bytes) : (bytes.size : ℤ) ≤ limit := by
  induction chunks generalizing held with
  | nil =>
    obtain rfl := Option.some.inj h
    exact hheld
  | cons chunk rest ih =>
    rw [collect] at h
    split_ifs at h with hempty hpassed
    · obtain rfl := Option.some.inj h
      exact hheld
    · exact ih (by rw [ByteArray.size_append]; omega) h

end Reading

/-! ### The deadline -/

/-- Limits that a run can be given: the deadline is in the range of doubles, and the numbers that
stand in the request and in the messages of a run have no more digits than are written. -/
structure Limits.Usable (limits : Limits) : Prop where
  deadline : (Double.ofRatio limits.timeoutMs.natAbs 1).isSome
  memory : (Nat.toDigits 10 (limits.memoryMb * 1024 * 1024).natAbs).length ≤ Text.maxDigits
  chars : (Nat.toDigits 10 limits.maxOutputChars.natAbs).length ≤ Text.maxDigits
  reply : (Nat.toDigits 10 limits.replyBytes.natAbs).length ≤ Text.maxDigits

/-- A deadline that is a double as a number of milliseconds can be told to the child. -/
theorem Limits.exists_forChild? {limits : Limits}
    (h : (Double.ofRatio limits.timeoutMs.natAbs 1).isSome) :
    ∃ told, limits.forChild? = some told := by
  have hseconds : (Double.ofRatio limits.timeoutMs.natAbs 1000).isSome :=
    Double.isSome_ofRatio_of_two_le h (by norm_num)
  rw [← Option.isSome_iff_exists, forChild?, Option.isSome_map]
  unfold deadlineSeconds?
  cases htimeout : limits.timeoutMs with
  | ofNat ms =>
    rw [htimeout] at hseconds
    rw [Option.isSome_map]
    exact hseconds
  | negSucc ms =>
    rw [htimeout] at hseconds
    rw [Option.isSome_map]
    exact hseconds

/-! ### The run -/

namespace Child

variable {limits : Limits} {child : Child} {spare : ℕ}

/-- The bytes of a child are held unless there are too many of them. -/
theorem held_eq (hchars : 0 ≤ limits.maxOutputChars)
    (hchunks : ∀ chunk ∈ child.chunks, chunk ≠ .empty) :
    child.held limits =
      if limits.replyBytes < child.written.size then none else some child.written := by
  have hstart : ((ByteArray.empty.size : ℕ) : ℤ) ≤ limits.replyBytes := by
    rw [ByteArray.size_empty, Limits.replyBytes, Limits.replyFrame]
    omega
  rw [held, collect_eq hstart hchunks, ByteArray.empty_append]
  rfl

theorem kills_eq (hchars : 0 ≤ limits.maxOutputChars)
    (hchunks : ∀ chunk ∈ child.chunks, chunk ≠ .empty) :
    child.kills limits =
      (if limits.replyBytes < child.written.size then 1 else 0) +
        if child.hangs then 1 else 0 := by
  rw [kills, held_eq hchars hchunks]
  by_cases hpassed : limits.replyBytes < child.written.size
  · rw [if_pos hpassed, if_pos hpassed]
    rfl
  · rw [if_neg hpassed, if_neg hpassed]
    rfl

theorem outcome_eq (hchars : 0 ≤ limits.maxOutputChars)
    (hchunks : ∀ chunk ∈ child.chunks, chunk ≠ .empty) :
    child.outcome limits spare =
      if child.hangs then .ok (.failed (lateWords limits))
      else if limits.replyBytes < child.written.size then .ok (.failed (excessWords limits))
      else readReply child.returnCode child.written spare := by
  rw [outcome, held_eq hchars hchunks]
  split_ifs <;> rfl

/-- An error of a child that has started comes without output. -/
theorem clear_of_outcome {result : Result} (h : child.outcome limits spare = .ok result) :
    result.Clear := by
  unfold outcome at h
  split_ifs at h
  · obtain rfl := Except.ok.inj h
    exact Result.clear_failed _
  · split at h
    · obtain rfl := Except.ok.inj h
      exact Result.clear_failed _
    · exact clear_of_readReply h

end Child

/-- A child that has started is sent the request, as far as it takes it. -/
theorem Child.sent_of_started {source : String} {limits : Limits} {child : Child}
    {told : ChildLimits} (htold : limits.forChild? = some told) (hstart : child.startError = none) :
    child.sent source limits = child.taken (request source told) := by
  rw [sent, htold, hstart]

theorem execute_of_started {source : String} {limits : Limits} {child : Child}
    {told : ChildLimits} {spare : ℕ} (htold : limits.forChild? = some told)
    (hstart : child.startError = none) :
    execute source limits child spare =
      (child.outcome limits spare).map fun result =>
        ⟨result, child.taken (request source told), child.kills limits⟩ := by
  rw [execute, htold, hstart]
  dsimp only
  rw [Child.sent_of_started htold hstart]

/-- **The outcome of a run for every child.** A child that is started with usable limits is late, or
else it writes too much, or else its return code and its bytes decide. It is killed for writing too
much and for being late, and never otherwise. The bytes held stay within the limit after every
chunk, another child that writes the same bytes in other chunks or does not take the request comes
to the same, and an error comes without output. All this is so however deeply a reply may be
nested. -/
theorem outcome_of_started (source : String) {limits : Limits} {child : Child} (spare : ℕ)
    (hchars : 0 ≤ limits.maxOutputChars) (husable : limits.Usable)
    (hstart : child.startError = none) (hchunks : ∀ chunk ∈ child.chunks, chunk ≠ .empty) :
    let allowed : ℤ := 6 * limits.maxOutputChars + 4096
    (∃ told, limits.forChild? = some told ∧
        execute source limits child spare =
          (child.outcome limits spare).map fun result =>
            ⟨result, child.taken (request source told), child.kills limits⟩) ∧
      (child.outcome limits spare =
        if child.hangs then
          .ok ⟨[], some (Codes.ofString
            ("Timeout: execution exceeded " ++ toString limits.timeoutMs ++ " ms"))⟩
        else if allowed < child.written.size then
          .ok ⟨[], some (Codes.ofString
            ("Execution error: sandbox reply exceeded " ++ toString allowed ++ " bytes"))⟩
        else readReply child.returnCode child.written spare) ∧
      (child.kills limits =
        (if allowed < child.written.size then 1 else 0) + if child.hangs then 1 else 0) ∧
      (∀ n bytes, collect limits.replyBytes .empty (child.chunks.take n) = some bytes →
        (bytes.size : ℤ) ≤ allowed) ∧
      (∀ other : Child, (∀ chunk ∈ other.chunks, chunk ≠ .empty) →
        other.written = child.written → other.returnCode = child.returnCode →
          other.hangs = child.hangs →
            other.outcome limits spare = child.outcome limits spare ∧
              other.kills limits = child.kills limits) ∧
      ∀ result, child.outcome limits spare = .ok result →
        result.error ≠ none → result.output = [] := by
  intro allowed
  have hallowed : limits.replyBytes = allowed := by
    rw [Limits.replyBytes, Limits.replyFrame, mul_comm]
  obtain ⟨told, htold⟩ := Limits.exists_forChild? husable.deadline
  refine ⟨⟨told, htold, execute_of_started htold hstart⟩, ?_, ?_, ?_, ?_, ?_⟩
  · rw [Child.outcome_eq hchars hchunks, ← hallowed]
    rfl
  · rw [Child.kills_eq hchars hchunks, hallowed]
  · intro n bytes hbytes
    rw [← hallowed]
    refine size_le_of_collect ?_ hbytes
    rw [ByteArray.size_empty, hallowed]
    omega
  · intro other hother hwritten hcode hhangs
    rw [Child.outcome_eq hchars hother, Child.outcome_eq hchars hchunks,
      Child.kills_eq hchars hother, Child.kills_eq hchars hchunks, hwritten, hcode, hhangs]
    exact ⟨rfl, rfl⟩
  · intro result hresult
    exact Child.clear_of_outcome hresult

/-- A child that takes no request and writes an object without members in two chunks: the run has
an empty output, even if nothing deeper than an array in an object is read. -/
theorem split_object_is_read :
    let limits : Limits := { maxOutputChars := 0 }
    let child : Child := { chunks := [⟨#[123]⟩, ⟨#[125]⟩], brokenPipe := true }
    0 ≤ limits.maxOutputChars ∧ limits.Usable ∧
      child.startError = none ∧ (∀ chunk ∈ child.chunks, chunk ≠ .empty) ∧
        execute "print()" limits child 0 = .ok ⟨⟨[], none⟩, "", 0⟩ := by
  intro limits child
  have husable : limits.Usable :=
    ⟨by decide +kernel, by decide +kernel, by decide +kernel, by decide +kernel⟩
  have hchunks : ∀ chunk ∈ child.chunks, chunk ≠ .empty := by decide
  obtain ⟨⟨told, -, hrun⟩, houtcome, hkills, -⟩ :=
    @outcome_of_started "print()" limits child 0 le_rfl husable rfl hchunks
  have hread : child.outcome limits 0 = .ok ⟨[], none⟩ := by
    rw [houtcome]
    decide +kernel
  have hnone : child.kills limits = 0 := by
    rw [hkills]
    decide +kernel
  refine ⟨le_rfl, husable, rfl, hchunks, ?_⟩
  rw [hrun, hread, hnone]
  rfl

end Shellbox.Sandbox
