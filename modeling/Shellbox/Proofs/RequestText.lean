import Mathlib.Algebra.Order.Floor.Div
import Shellbox.Proofs.AsciiText
import Shellbox.Proofs.ReplyStream
/-!
# The request comes through

A child hears its snippet and its limits as one JSON object in ASCII characters. Reading the text
gives the object back if the object is proper: its keys differ, its texts are texts of characters,
and its whole numbers are not too long (`read_request`). The first two hold of every request. The
processor time is never too long either: it comes from a double, so it is below `2 ^ 1024` up to the
second that is added (`digits_cpuSeconds_le`). The other two numbers are as long as they are set.
-/

namespace Shellbox

namespace Double

variable {num den : ℕ} {value : Double}

/-- A finite double is below `2 ^ 1024`. -/
theorem ratio_le_of_isFinite (h : value.isFinite) :
    0 < value.ratio.2 ∧ value.ratio.1 ≤ value.ratio.2 * 2 ^ 1024 := by
  have hpos : 0 < value.ratio.2 := scale_snd_pos one_pos _ _
  have hpos' : (0 : ℚ) < value.ratio.2 := by exact_mod_cast hpos
  have hratio : (value.ratio.1 : ℚ) / value.ratio.2 = value.mantissa * 2 ^ value.exponent := by
    rw [ratio, scale_ratio, Nat.cast_one, div_one]
  refine ⟨hpos, ?_⟩
  have hsize : (value.mantissa : ℚ) * 2 ^ value.exponent ≤ 2 ^ (1024 : ℤ) := by
    rcases (isFinite_iff value).1 h with hzero | hexponent
    · rw [hzero, Nat.cast_zero, zero_mul]
      positivity
    · rcases Nat.eq_zero_or_pos value.mantissa with hzero | hmantissa
      · rw [hzero, Nat.cast_zero, zero_mul]
        positivity
      · obtain ⟨-, hlt⟩ := log2_spec hmantissa
        calc (value.mantissa : ℚ) * 2 ^ value.exponent
            ≤ 2 ^ ((value.mantissa.log2 : ℤ) + 1) * 2 ^ value.exponent := by gcongr
          _ = 2 ^ ((value.mantissa.log2 : ℤ) + 1 + value.exponent) := by
              rw [zpow_add₀ two_ne_zero _ value.exponent]
          _ ≤ 2 ^ (1024 : ℤ) := zpow_le_zpow_right₀ one_le_two (by omega)
  rw [← hratio, div_le_iff₀ hpos', mul_comm] at hsize
  exact_mod_cast hsize

theorem floor_le_of_isFinite (h : value.isFinite) : value.floor ≤ 2 ^ 1024 := by
  obtain ⟨-, hle⟩ := ratio_le_of_isFinite h
  exact Nat.div_le_of_le_mul hle

theorem ceil_le_of_isFinite (h : value.isFinite) : value.ceil ≤ 2 ^ 1024 := by
  obtain ⟨hpos, hle⟩ := ratio_le_of_isFinite h
  exact (ceilDiv_le_iff_le_mul hpos).2 hle

theorem isFinite_of_ofRatio (h : ofRatio num den = some value) : value.isFinite := by
  rcases Nat.eq_zero_or_pos num with rfl | hnum
  · obtain rfl := Option.some.inj h
    rfl
  · rw [ofRatio_eq hnum] at h
    split_ifs at h with hfinite
    obtain rfl := Option.some.inj h
    exact hfinite

end Double

namespace Sandbox

variable {limits : Limits} {told : ChildLimits}

/-- A deadline is told in `2 ^ 1024` seconds at most. -/
theorem Limits.natAbs_deadlineSeconds_le {ms seconds : ℤ}
    (h : deadlineSeconds? ms = some seconds) : seconds.natAbs ≤ 2 ^ 1024 := by
  unfold deadlineSeconds? at h
  cases ms with
  | ofNat n =>
    obtain ⟨value, hvalue, rfl⟩ := Option.map_eq_some_iff.1 h
    rw [Int.natAbs_natCast]
    exact Double.ceil_le_of_isFinite (Double.isFinite_of_ofRatio hvalue)
  | negSucc n =>
    obtain ⟨value, hvalue, rfl⟩ := Option.map_eq_some_iff.1 h
    rw [Int.natAbs_neg, Int.natAbs_natCast]
    exact Double.floor_le_of_isFinite (Double.isFinite_of_ofRatio hvalue)

/-- A number has no more decimal digits than binary ones. -/
theorem length_toDigits_le_succ {n k : ℕ} (h : n ≤ 2 ^ k + 1) :
    (Nat.toDigits 10 n).length ≤ k + 1 := by
  rw [Nat.length_toDigits_le_iff (by norm_num) (Nat.succ_pos k)]
  have hbase : 2 ^ k ≤ 10 ^ k := Nat.pow_le_pow_left (by norm_num) k
  have hpos : 0 < 10 ^ k := Nat.pow_pos (by norm_num)
  rw [pow_succ]
  omega

/-- The processor time that is told has few enough digits to be read. -/
theorem digits_cpuSeconds_le (h : limits.forChild? = some told) :
    (Nat.toDigits 10 told.cpuSeconds.natAbs).length ≤ Text.maxDigits := by
  obtain ⟨seconds, hseconds, rfl⟩ := Option.map_eq_some_iff.1 h
  have hsize : (seconds + 1).natAbs ≤ 2 ^ 1024 + 1 :=
    (Int.natAbs_add_le seconds 1).trans
      (Nat.add_le_add_right (Limits.natAbs_deadlineSeconds_le hseconds) 1)
  exact (length_toDigits_le_succ hsize).trans (by decide)

/-! ### The request -/

/-- A request whose whole numbers are short enough is read back as the snippet and its limits. -/
theorem read_request (source : String) (spare : ℕ) (htold : limits.forChild? = some told)
    (hmemory : (Nat.toDigits 10 told.memoryBytes.natAbs).length ≤ Text.maxDigits)
    (hchars : (Nat.toDigits 10 told.maxOutputChars.natAbs).length ≤ Text.maxDigits) :
    Json.read (spare + 2) (request source told).toList =
      .ok (.ofMembers [("source", .ofString source), ("limits", told.toJson)]) := by
  have hkey : ∀ key : String, ∀ n ∈ Codes.ofString key, n.isValidChar := Json.proper_ofString
  have hlimitKeys : [Codes.ofString "cpu_seconds", Codes.ofString "memory_bytes",
      Codes.ofString "max_output_chars"].Nodup := by decide
  have hlimits : told.toJson.Proper :=
    ⟨hlimitKeys, hkey "cpu_seconds", digits_cpuSeconds_le htold, hkey "memory_bytes", hmemory,
      hkey "max_output_chars", hchars, trivial⟩
  have hkeys : [Codes.ofString "source", Codes.ofString "limits"].Nodup := by decide
  have hrequest : (Json.ofMembers [("source", .ofString source), ("limits", told.toJson)]).Proper :=
    ⟨hkeys, hkey "source", Json.proper_ofString source, hkey "limits", hlimits, trivial⟩
  have hdepth : (Json.ofMembers [("source", .ofString source), ("limits", told.toJson)]).depth = 2 :=
    rfl
  exact Json.read_toAscii hrequest (by rw [hdepth]; omega)

/-- A request is written in ASCII characters. -/
theorem isAscii_request (source : String) (told : ChildLimits) :
    IsAscii (request source told).toList := by
  rw [request, Json.toAscii, String.toList_ofList]
  exact Json.isAscii_write _

/-- What a child hears in the bytes of a request: the value that the text in them is read as, where
values may be nested `spare` levels deeper than a request is. -/
def heard (spare : ℕ) (bytes : ByteArray) : Option (Except Json.ReadError Json) :=
  (String.fromUTF8? bytes).map fun text => Json.read (spare + 2) text.toList

/-- **The request comes through.** With a deadline in the range of doubles, and bounds that have no
more digits than can be read, every child that starts and takes its request is sent a text of ASCII
characters, whatever comes of the run, and hears in its bytes exactly the snippet and the
limits. -/
theorem request_comes_through (source : String) {limits : Limits}
    (hdeadline : (Double.ofRatio limits.timeoutMs.natAbs 1).isSome)
    (hmemory : (Nat.toDigits 10 (limits.memoryMb * 1024 * 1024).natAbs).length ≤ Text.maxDigits)
    (hchars : (Nat.toDigits 10 limits.maxOutputChars.natAbs).length ≤ Text.maxDigits) :
    ∃ told, limits.forChild? = some told ∧
      IsAscii (request source told).toList ∧
      (∀ spare, heard spare (request source told).toUTF8 = some (.ok (.ofMembers
        [("source", .ofString source),
         ("limits", .ofMembers
            [("cpu_seconds", .int told.cpuSeconds),
             ("memory_bytes", .int (limits.memoryMb * 1024 * 1024)),
             ("max_output_chars", .int limits.maxOutputChars)])]))) ∧
      ∀ child : Child, child.startError = none → child.brokenPipe = false →
        child.sent source limits = request source told ∧
          ∀ spare run, execute source limits child spare = .ok run →
            run.request = request source told := by
  obtain ⟨told, htold⟩ := Limits.exists_forChild? hdeadline
  obtain ⟨seconds, -, rfl⟩ := Option.map_eq_some_iff.1 htold
  refine ⟨_, htold, isAscii_request source _, fun spare => ?_, fun child hstart hpipe => ?_⟩
  · rw [heard, fromUTF8?_toUTF8, Option.map_some, read_request source spare htold hmemory hchars]
    rfl
  · have hsent : ∀ text, child.taken text = text := fun text => by
      rw [Child.taken, if_neg (by rw [hpipe]; decide)]
    refine ⟨(Child.sent_of_started htold hstart).trans (hsent _), fun spare run hrun => ?_⟩
    rw [execute_of_started htold hstart] at hrun
    cases houtcome : child.outcome limits spare with
    | error fault => rw [houtcome] at hrun; cases hrun
    | ok result =>
      rw [houtcome] at hrun
      obtain rfl := Except.ok.inj hrun
      exact hsent _

/-- A snippet with a quote, a backslash, a control character and characters of two and four bytes,
under a negative deadline and bounds beyond 64 bits. The child has been sent its request although
its answer is an empty array, for which the run has no result. -/
theorem request_of_wide_characters_comes_through :
    let source := "print(\"\\\u0001é😀\")"
    let limits : Limits :=
      { timeoutMs := -1, memoryMb := -18446744073709551616, maxOutputChars := 36893488147419103233 }
    let child : Child := { chunks := [⟨#[91, 93]⟩] }
    let sent := request source ⟨1, -19342813113834066795298816, 36893488147419103233⟩
    (Double.ofRatio limits.timeoutMs.natAbs 1).isSome ∧
      (Nat.toDigits 10 (limits.memoryMb * 1024 * 1024).natAbs).length ≤ Text.maxDigits ∧
      (Nat.toDigits 10 limits.maxOutputChars.natAbs).length ≤ Text.maxDigits ∧
      limits.forChild? = some ⟨1, -19342813113834066795298816, 36893488147419103233⟩ ∧
      heard 0 sent.toUTF8 =
        some (.ok (.ofMembers
          [("source", .ofString source),
           ("limits", .ofMembers
              [("cpu_seconds", .int 1),
               ("memory_bytes", .int (-19342813113834066795298816)),
               ("max_output_chars", .int 36893488147419103233)])])) ∧
      child.startError = none ∧ child.brokenPipe = false ∧
      execute source limits child 0 = .error (.notAnObject "list") ∧
      child.sent source limits = sent := by
  intro source limits child sent
  have hdeadline : (Double.ofRatio limits.timeoutMs.natAbs 1).isSome := by decide +kernel
  have hmemory : (Nat.toDigits 10 (limits.memoryMb * 1024 * 1024).natAbs).length ≤
      Text.maxDigits := by decide +kernel
  have hchars : (Nat.toDigits 10 limits.maxOutputChars.natAbs).length ≤ Text.maxDigits := by
    decide +kernel
  have htold : limits.forChild? =
      some ⟨1, -19342813113834066795298816, 36893488147419103233⟩ := by decide +kernel
  obtain ⟨told, hsome, -, hheard, hsent⟩ := request_comes_through source hdeadline hmemory hchars
  obtain rfl := Option.some.inj (hsome.symm.trans htold)
  exact ⟨hdeadline, hmemory, hchars, htold, hheard 0, rfl, rfl, by decide +kernel,
    (hsent child rfl rfl).1⟩

end Sandbox
end Shellbox
