import Mathlib.Data.List.Basic
import Shellbox.Proofs.JsonRoundTrip
/-!
# JSON in ASCII characters

The ASCII form of a value is one, whatever texts and numbers are in it (`Json.isAscii_write`). The
brackets and commas are, so are the digits of a number and the forms of a double, and in a text the
characters that stand for themselves are those from blank to tilde; all others are written by escapes
of hexadecimal digits.
-/

namespace Shellbox

/-! ### ASCII -/

/-- All characters of a text are ASCII characters. -/
def IsAscii (text : List Char) : Prop := ∀ c ∈ text, c.toNat < 128

instance (text : List Char) : Decidable (IsAscii text) :=
  List.decidableBAll (fun c : Char => c.toNat < 128) text

namespace IsAscii

variable {c : Char} {text more : List Char}

@[simp] theorem nil : IsAscii [] := fun _ h => absurd h List.not_mem_nil

@[simp] theorem cons_iff : IsAscii (c :: text) ↔ c.toNat < 128 ∧ IsAscii text :=
  List.forall_mem_cons

@[simp] theorem append_iff : IsAscii (text ++ more) ↔ IsAscii text ∧ IsAscii more :=
  List.forall_mem_append

theorem flatMap {α : Type} {f : α → List Char} (h : ∀ a, IsAscii (f a)) (list : List α) :
    IsAscii (list.flatMap f) := by
  intro c hc
  obtain ⟨a, -, hc⟩ := List.mem_flatMap.1 hc
  exact h a c hc

/-- A part of a text of ASCII characters is one as well. -/
theorem subset (h : IsAscii text) (hsubset : more ⊆ text) : IsAscii more :=
  fun c hc => h c (hsubset hc)

theorem replicate (n : ℕ) (h : c.toNat < 128) : IsAscii (List.replicate n c) := fun d hd => by
  rw [List.eq_of_mem_replicate hd]
  exact h

/-- Decimal digits are ASCII characters. -/
theorem toDigits (n : ℕ) : IsAscii (Nat.toDigits 10 n) := by
  intro c hc
  have hdigit := Nat.isDigit_of_mem_toDigits (by norm_num) le_rfl hc
  rw [Char.isDigit, Bool.and_eq_true, decide_eq_true_iff, decide_eq_true_iff] at hdigit
  have : c.toNat ≤ 57 := hdigit.2
  omega

theorem toString_nat (n : ℕ) : IsAscii (toString n).toList := by
  rw [Nat.toString_eq_repr, Nat.toList_repr]
  exact toDigits n

end IsAscii

/-- A double is written in ASCII characters. -/
theorem Decimal.isAscii_render (value : Double) : IsAscii (Decimal.render value).toList := by
  have hzeros : ∀ n, IsAscii (List.replicate n '0') := fun n => IsAscii.replicate n (by decide)
  unfold Decimal.render
  split_ifs with hzero
  · decide
  generalize Decimal.shortest value = shown
  obtain ⟨number, power⟩ := shown
  dsimp only
  -- the digits in all the forms are those of the number without the zeros behind it
  have htrimmed : IsAscii (((toString number).toList.reverse.dropWhile (· = '0')).reverse) :=
    (IsAscii.toString_nat number).subset fun c hc =>
      List.mem_reverse.1 ((List.dropWhile_sublist _).subset (List.mem_reverse.1 hc))
  generalize ((toString number).toList.reverse.dropWhile (· = '0')).reverse = trimmed at htrimmed ⊢
  split_ifs
  · simp [hzeros, htrimmed]
  · simp [hzeros, htrimmed]
  · simp [htrimmed.subset (List.take_subset _ _), htrimmed.subset (List.drop_subset _ _)]
  all_goals
    rcases trimmed with _ | ⟨first, _ | ⟨second, rest⟩⟩
    · simp [IsAscii.toDigits]
    · simpa [IsAscii.toDigits] using htrimmed
    · simpa [IsAscii.toDigits] using htrimmed

namespace Json

theorem isAscii_hexDigits (width n : ℕ) : IsAscii (Text.hexDigits width n) := by
  induction width generalizing n with
  | zero => exact IsAscii.nil
  | succ width ih =>
    have hdigit : ∀ m, m < 16 → (Text.hexDigit m).toNat < 128 := by decide
    rw [Text.hexDigits, IsAscii.append_iff, IsAscii.cons_iff]
    exact ⟨ih (n / 16), hdigit (n % 16) (Nat.mod_lt n (by norm_num)), IsAscii.nil⟩

theorem isAscii_unitEscape (n : ℕ) : IsAscii (unitEscape n) := by
  rw [unitEscape, IsAscii.cons_iff, IsAscii.cons_iff]
  exact ⟨by decide, by decide, isAscii_hexDigits 4 n⟩

/-- A code point is written in ASCII characters. -/
theorem isAscii_writeCode (n : ℕ) : IsAscii (writeCode true n) := by
  unfold writeCode
  split_ifs with hquote hslash hfeed hreturn htab hform hback hescape
  · decide
  · decide
  · decide
  · decide
  · decide
  · decide
  · decide
  · unfold codeEscape
    split_ifs
    · exact isAscii_unitEscape n
    · exact IsAscii.append_iff.2 ⟨isAscii_unitEscape _, isAscii_unitEscape _⟩
  · have hplain : 32 ≤ n ∧ n ≤ 126 := by simpa using hescape
    rw [IsAscii.cons_iff, toNat_ofNat (Or.inl (by omega))]
    exact ⟨by omega, IsAscii.nil⟩

theorem isAscii_writeText (codes : Codes) : IsAscii (writeText true codes) := by
  simp [writeText, IsAscii.flatMap isAscii_writeCode]

theorem isAscii_writeReal : ∀ value : Real, IsAscii (writeReal value)
  | .nan => by decide
  | .infinite true => by decide
  | .infinite false => by decide
  | .finite negative size => by
    have hwritten : writeReal (.finite negative size) =
        ((if negative then "-" else "") ++ Decimal.render size).toList := rfl
    have hsign : IsAscii (if negative then "-" else "").toList := by cases negative <;> decide
    rw [hwritten, String.toList_append, IsAscii.append_iff]
    exact ⟨hsign, Decimal.isAscii_render size⟩

mutual

/-- **A value is written in ASCII characters.** -/
theorem isAscii_write : ∀ value : Json, IsAscii (value.write true)
  | null => by decide
  | bool true => by decide
  | bool false => by decide
  | int value => by
    have hdigits := IsAscii.toDigits value.natAbs
    rw [write_int, toList_toString_int]
    split_ifs
    · exact hdigits
    · exact IsAscii.cons_iff.2 ⟨by decide, hdigits⟩
  | real value => isAscii_writeReal value
  | text codes => isAscii_writeText codes
  | array items => by
    have := isAscii_writeItems items
    simp [write_array, this]
  | object members => by
    have := isAscii_writeMembers members
    simp [write_object, this]

/-- Items are written in ASCII characters. -/
theorem isAscii_writeItems : ∀ items : List Json, IsAscii (writeItems true items)
  | [] => IsAscii.nil
  | [item] => isAscii_write item
  | item :: next :: items => by
    have hitem := isAscii_write item
    have hitems := isAscii_writeItems (next :: items)
    simp [writeItems_cons_cons, hitem, hitems]

/-- Members are written in ASCII characters. -/
theorem isAscii_writeMembers : ∀ members : List (Codes × Json), IsAscii (writeMembers true members)
  | [] => IsAscii.nil
  | [(key, value)] => by
    have hkey := isAscii_writeText key
    have hvalue := isAscii_write value
    simp [writeMembers_singleton, hkey, hvalue]
  | (key, value) :: next :: members => by
    have hkey := isAscii_writeText key
    have hvalue := isAscii_write value
    have hmembers := isAscii_writeMembers (next :: members)
    simp [writeMembers_cons_cons, hkey, hvalue, hmembers]

end

end Json
end Shellbox
