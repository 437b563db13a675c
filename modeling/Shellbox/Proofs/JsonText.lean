import Mathlib.Data.List.Basic
import Mathlib.Tactic.IntervalCases
import Shellbox.Json.Reader
import Shellbox.Json.Writer
/-!
# Reading back a written text

A text is written code point by code point: as it is, behind a backslash with a letter, or by its
number in hexadecimal digits, as two halves if it is large. Reading takes as much of the input as
one code point was written in, and gives the code point (`readText_writeCode`). What follows plays
no part in it, as long as the code points are characters: the first of two halves would take the
second one from what follows, but no half of a pair is a character.
-/

namespace Shellbox.Json

/-! ### Hexadecimal digits -/

theorem hexValue?_hexDigit {n : Nat} (h : n < 16) : hexValue? (Text.hexDigit n) = some n := by
  interval_cases n <;> decide

theorem hexDigits_four (n : Nat) :
    Text.hexDigits 4 n =
      [Text.hexDigit (n / 16 / 16 / 16 % 16), Text.hexDigit (n / 16 / 16 % 16),
        Text.hexDigit (n / 16 % 16), Text.hexDigit (n % 16)] := rfl

/-- A number below `0x10000` is read back from its four digits. -/
theorem unitEscape?_unitEscape {n : Nat} (h : n < 0x10000) (rest : List Char) :
    unitEscape? (unitEscape n ++ rest) = some (n, rest) := by
  have hdigit : ∀ m, hexValue? (Text.hexDigit (m % 16)) = some (m % 16) := fun m =>
    hexValue?_hexDigit (Nat.mod_lt m (by norm_num))
  rw [unitEscape, hexDigits_four]
  simp only [List.cons_append, List.nil_append, unitEscape?, unit?, hdigit, Option.map_some,
    bind, Option.bind, pure, Option.some.injEq, Prod.mk.injEq, and_true]
  omega

/-! ### Code points -/

/-- A code point is written behind a backslash with a letter, by its number, or as it is. -/
theorem writeCode_cases (ascii : Bool) (n : Nat) :
    (∃ c, c ≠ 'u' ∧ shortEscape? c = some n ∧ writeCode ascii n = ['\\', c]) ∨
      (n < 32 ∨ ascii = true ∧ 126 < n) ∧ writeCode ascii n = codeEscape n ∨
        (32 ≤ n ∧ n ≠ 34 ∧ n ≠ 92) ∧ writeCode ascii n = [Char.ofNat n] := by
  by_cases hquote : n = 34
  · subst hquote; exact Or.inl ⟨'"', by decide, rfl, rfl⟩
  by_cases hslash : n = 92
  · subst hslash; exact Or.inl ⟨'\\', by decide, rfl, rfl⟩
  by_cases hfeed : n = 10
  · subst hfeed; exact Or.inl ⟨'n', by decide, rfl, rfl⟩
  by_cases hreturn : n = 13
  · subst hreturn; exact Or.inl ⟨'r', by decide, rfl, rfl⟩
  by_cases htab : n = 9
  · subst htab; exact Or.inl ⟨'t', by decide, rfl, rfl⟩
  by_cases hform : n = 12
  · subst hform; exact Or.inl ⟨'f', by decide, rfl, rfl⟩
  by_cases hback : n = 8
  · subst hback; exact Or.inl ⟨'b', by decide, rfl, rfl⟩
  have hrest : writeCode ascii n =
      if n < 32 || (ascii && 126 < n) then codeEscape n else [Char.ofNat n] := by
    rw [writeCode, if_neg hquote, if_neg hslash, if_neg hfeed, if_neg hreturn, if_neg htab,
      if_neg hform, if_neg hback]
  rw [hrest]
  by_cases hescape : n < 32 ∨ ascii = true ∧ 126 < n
  · exact Or.inr (Or.inl ⟨hescape, if_pos (by simpa using hescape)⟩)
  · rw [not_or, not_lt] at hescape
    refine Or.inr (Or.inr ⟨⟨hescape.1, hquote, hslash⟩, if_neg ?_⟩)
    simpa [hescape.1] using hescape.2

/-- What is between the quotes is never empty for a code point. -/
theorem one_le_length_writeCode (ascii : Bool) (n : Nat) : 1 ≤ (writeCode ascii n).length := by
  rcases writeCode_cases ascii n with ⟨c, -, -, hwritten⟩ | ⟨-, hwritten⟩ | ⟨-, hwritten⟩
  · rw [hwritten]
    exact Nat.succ_pos _
  · rw [hwritten, codeEscape]
    split_ifs <;> exact Nat.succ_pos _
  · rw [hwritten]
    exact le_rfl

theorem length_le_length_writeCodes (ascii : Bool) (codes : Codes) :
    codes.length ≤ (codes.flatMap (writeCode ascii)).length := by
  induction codes with
  | nil => exact Nat.zero_le _
  | cons n codes ih =>
    have := one_le_length_writeCode ascii n
    rw [List.flatMap_cons, List.length_append, List.length_cons]
    omega

theorem toNat_ofNat {n : Nat} (h : n.isValidChar) : (Char.ofNat n).toNat = n := by
  rw [Char.ofNat, dif_pos h]
  rfl

/-- Characters are no halves of pairs. -/
theorem pairUp_of_isValidChar {n : Nat} (h : n.isValidChar) (low : Nat) : pairUp n low = none := by
  unfold pairUp
  rw [if_neg]
  simp only [Bool.and_eq_true, decide_eq_true_iff]
  rcases h with h | h <;> omega

/-- A code point above `0xFFFF` is put together from its halves. -/
theorem pairUp_halves {n : Nat} (hlow : 0x10000 ≤ n) (hhigh : n < 0x110000) :
    pairUp (0xD800 + (n - 0x10000) / 0x400) (0xDC00 + (n - 0x10000) % 0x400) = some n := by
  have hquotient : (n - 0x10000) / 0x400 ≤ 0x3FF := by omega
  have hrest : (n - 0x10000) % 0x400 ≤ 0x3FF := by omega
  have hwhole : 0x10000 + (n - 0x10000) / 0x400 * 0x400 + (n - 0x10000) % 0x400 = n := by omega
  generalize (n - 0x10000) / 0x400 = quotient at *
  generalize (n - 0x10000) % 0x400 = rest at *
  unfold pairUp
  rw [Nat.add_sub_cancel_left, Nat.add_sub_cancel_left, if_pos]
  · rw [← hwhole, Nat.add_assoc]
  · simp only [Bool.and_eq_true, decide_eq_true_iff]
    omega

/-- A character that is written by its number is read back, whatever follows. -/
theorem readText_unit {n : Nat} (hsmall : n < 0x10000) (h : n.isValidChar) (fuel : Nat)
    (before : Codes) (rest : List Char) :
    readText (fuel + 1) before (unitEscape n ++ rest) = readText fuel (n :: before) rest := by
  have hread := unitEscape?_unitEscape hsmall rest
  rw [unitEscape, List.cons_append, List.cons_append] at hread ⊢
  rw [readText, if_pos rfl, hread]
  dsimp only
  cases hnext : unitEscape? rest with
  | none => rfl
  | some found =>
    dsimp only
    rw [pairUp_of_isValidChar h]

/-- Two halves one behind the other are read as the code point that they make up. -/
theorem readText_halves {n high low : Nat} (hhigh : high < 0x10000) (hlow : low < 0x10000)
    (h : pairUp high low = some n) (fuel : Nat) (before : Codes) (rest : List Char) :
    readText (fuel + 1) before (unitEscape high ++ (unitEscape low ++ rest)) =
      readText fuel (n :: before) rest := by
  have hread := unitEscape?_unitEscape hhigh (unitEscape low ++ rest)
  rw [unitEscape, List.cons_append, List.cons_append] at hread ⊢
  rw [readText, if_pos rfl, hread]
  dsimp only
  rw [unitEscape?_unitEscape hlow]
  dsimp only
  rw [h]

/-- An escape by number is read as one code point. -/
theorem readText_codeEscape {n : Nat} (h : n.isValidChar) (fuel : Nat) (before : Codes)
    (rest : List Char) :
    readText (fuel + 1) before (codeEscape n ++ rest) = readText fuel (n :: before) rest := by
  have hlimit : n < 0x110000 := by rcases h with h | h <;> omega
  unfold codeEscape
  split_ifs with hsmall
  · exact readText_unit hsmall h fuel before rest
  · rw [List.append_assoc]
    exact readText_halves (by omega) (by omega) (pairUp_halves (by omega) hlimit) fuel before rest

/-- **A written code point is read back.** -/
theorem readText_writeCode (ascii : Bool) {n : Nat} (h : n.isValidChar) (fuel : Nat)
    (before : Codes) (rest : List Char) :
    readText (fuel + 1) before (writeCode ascii n ++ rest) = readText fuel (n :: before) rest := by
  rcases writeCode_cases ascii n with
    ⟨c, hletter, hshort, hwritten⟩ | ⟨-, hwritten⟩ | ⟨⟨hprinting, hquote, hslash⟩, hwritten⟩
  · rw [hwritten, List.cons_append, List.singleton_append, readText, if_neg hletter, hshort]
  · rw [hwritten]
    exact readText_codeEscape h fuel before rest
  · have hcode := toNat_ofNat h
    have hplain : ∀ c : Char, c.toNat ≠ n → Char.ofNat n ≠ c := fun c hc he =>
      hc (by rw [← he, hcode])
    have hnotSlash := hplain '\\' (Ne.symm hslash)
    have hcontrol : ¬(decide ((Char.ofNat n).toNat < 32) || decide (Char.ofNat n = '\\')) := by
      rw [hcode, Bool.or_eq_true, decide_eq_true_iff, decide_eq_true_iff]
      exact not_or.2 ⟨not_lt.2 hprinting, hnotSlash⟩
    rw [hwritten, List.singleton_append, readText, if_neg hcontrol, hcode]
    · exact hplain '"' (Ne.symm hquote)
    · exact fun _ _ he => absurd he hnotSlash

/-- **A written text is read back.** -/
theorem readText_writeCodes (ascii : Bool) {codes : Codes} (h : ∀ n ∈ codes, n.isValidChar)
    {fuel : Nat} (hfuel : codes.length < fuel) (before : Codes) (rest : List Char) :
    readText fuel before (codes.flatMap (writeCode ascii) ++ '"' :: rest) =
      .ok (before.reverse ++ codes, rest) := by
  induction codes generalizing fuel before with
  | nil =>
    obtain ⟨fuel, rfl⟩ := Nat.exists_eq_succ_of_ne_zero (Nat.ne_of_gt hfuel)
    rw [List.flatMap_nil, List.nil_append, List.append_nil]
    rfl
  | cons n codes ih =>
    obtain ⟨hn, hcodes⟩ := List.forall_mem_cons.1 h
    rw [List.length_cons] at hfuel
    obtain ⟨fuel, rfl⟩ := Nat.exists_eq_succ_of_ne_zero (Nat.ne_of_gt (Nat.lt_of_le_of_lt
      (Nat.zero_le _) hfuel))
    rw [List.flatMap_cons, List.append_assoc, readText_writeCode ascii hn,
      ih hcodes (Nat.lt_of_succ_lt_succ hfuel), List.reverse_cons, List.append_assoc,
      List.singleton_append]

end Shellbox.Json
