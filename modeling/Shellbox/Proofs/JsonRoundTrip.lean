import Shellbox.Proofs.JsonText
import Shellbox.Proofs.KeyedPairs
/-!
# Reading back a written value

Every proper value is read back from its text (`read_write`): one without fractions, whose whole
numbers have at most 4300 digits, whose texts are texts of characters, and whose objects have each
key once. There must be room for its depth, and without that much room brackets are not read at all
(`read_brackets`). It makes no difference whether the text is written in ASCII characters.

A value is read together with what follows it, which must not go on with a number. The induction is
on the fuel, which each reader passes on with one unit less, and takes values, items and members
together (`readsAll`); as much fuel as a value has characters is enough.
-/

namespace Shellbox.Json

/-! ### Proper values -/

mutual

/-- A value that is read back from its text. -/
def Proper : Json → Prop
  | null => True
  | bool _ => True
  | int value => (Nat.toDigits 10 value.natAbs).length ≤ Text.maxDigits
  | real _ => False
  | text codes => ∀ n ∈ codes, n.isValidChar
  | array items => ProperItems items
  | object members => (Keyed.keys members).Nodup ∧ ProperMembers members

/-- Items that are read back. -/
def ProperItems : List Json → Prop
  | [] => True
  | item :: rest => item.Proper ∧ ProperItems rest

/-- Members that are read back. -/
def ProperMembers : List (Codes × Json) → Prop
  | [] => True
  | (key, value) :: rest => (∀ n ∈ key, n.isValidChar) ∧ value.Proper ∧ ProperMembers rest

end

mutual

/-- How deeply arrays and objects are nested in a value. -/
def depth : Json → Nat
  | null | bool _ | int _ | real _ | text _ => 0
  | array items => itemsDepth items + 1
  | object members => membersDepth members + 1

/-- How deeply arrays and objects are nested in items. -/
def itemsDepth : List Json → Nat
  | [] => 0
  | item :: rest => max item.depth (itemsDepth rest)

/-- How deeply arrays and objects are nested in members. -/
def membersDepth : List (Codes × Json) → Nat
  | [] => 0
  | (_, value) :: rest => max value.depth (membersDepth rest)

end

/-- Texts are not nested. -/
theorem itemsDepth_ofString (lines : List String) : itemsDepth (lines.map .ofString) = 0 := by
  induction lines with
  | nil => rfl
  | cons line lines ih => rw [List.map_cons, itemsDepth, ih]; rfl

/-- A text of characters is read back. -/
theorem proper_ofString (text : String) : (Json.ofString text).Proper := by
  intro n hn
  obtain ⟨c, -, rfl⟩ := List.mem_map.1 hn
  exact c.valid

theorem properItems_ofString (lines : List String) : ProperItems (lines.map .ofString) := by
  induction lines with
  | nil => trivial
  | cons line lines ih => exact ⟨proper_ofString line, ih⟩

/-! ### Whole numbers -/

/-- What follows does not go on with a number. -/
def EndsNumber (rest : List Char) : Prop :=
  ∀ c ∈ rest.head?, c.isDigit = false ∧ c ≠ '.' ∧ c ≠ 'e' ∧ c ≠ 'E'

theorem endsNumber_nil : EndsNumber [] := fun _ h => by cases h

theorem EndsNumber.cons {c : Char} (h : c.isDigit = false ∧ c ≠ '.' ∧ c ≠ 'e' ∧ c ≠ 'E')
    (rest : List Char) : EndsNumber (c :: rest) := fun _ hd => Option.some.inj hd ▸ h

/-- A number greater than zero does not start with a zero. -/
theorem head?_toDigits_ne {n : Nat} (h : 0 < n) : (Nat.toDigits 10 n).head? ≠ some '0' := by
  induction n using Nat.strongRecOn with
  | _ n ih =>
    by_cases hsmall : n < 10
    · rw [Nat.toDigits_of_lt_base hsmall]
      interval_cases n <;> decide
    · rw [Nat.toDigits_of_base_le (by norm_num) (by omega),
        List.head?_append_of_ne_nil _ Nat.toDigits_ne_nil]
      exact ih (n / 10) (by omega) (by omega)

/-- The digits of a number start with a digit. -/
theorem exists_toDigits_eq (n : Nat) : ∃ c rest, Nat.toDigits 10 n = c :: rest ∧ c.isDigit := by
  obtain ⟨c, rest, hcons⟩ := List.exists_cons_of_ne_nil (Nat.toDigits_ne_nil (n := n) (b := 10))
  exact ⟨c, rest, hcons, Nat.isDigit_of_mem_toDigits (by norm_num) le_rfl
    (hcons ▸ List.mem_cons_self)⟩

theorem digitsValue_toDigits (n : Nat) : Text.digitsValue (Nat.toDigits 10 n) = n := by
  have h := Nat.ofDigitChars_ten_toDigits (n := n)
  rw [Nat.ofDigitChars_eq_foldl] at h
  exact h

/-- The digits of a number are all that is read as its digits. -/
theorem takeWhile_toDigits (n : Nat) {rest : List Char} (h : EndsNumber rest) :
    (Nat.toDigits 10 n ++ rest).takeWhile Char.isDigit = Nat.toDigits 10 n ∧
      (Nat.toDigits 10 n ++ rest).dropWhile Char.isDigit = rest := by
  have hdigits : ∀ c ∈ Nat.toDigits 10 n, c.isDigit := fun c hc =>
    Nat.isDigit_of_mem_toDigits (by norm_num) le_rfl hc
  rw [List.takeWhile_append_of_pos hdigits, List.dropWhile_append_of_pos hdigits]
  cases rest with
  | nil => simp
  | cons c rest =>
    have hc := (h c rfl).1
    rw [List.takeWhile_cons_of_neg (by simp [hc]), List.dropWhile_cons_of_neg (by simp [hc])]
    simp

theorem readFraction_of_endsNumber {rest : List Char} (h : EndsNumber rest) :
    readFraction rest = (none, rest) := by
  unfold readFraction
  split
  · exact absurd rfl (h '.' rfl).2.1
  · rfl

theorem readExponent_of_endsNumber {rest : List Char} (h : EndsNumber rest) :
    readExponent rest = (none, rest) := by
  cases rest with
  | nil => rfl
  | cons c rest =>
    obtain ⟨-, -, hsmall, hlarge⟩ := h c rfl
    simp [readExponent, hsmall, hlarge]

/-- The whole part of a number is taken off as its digits. -/
theorem readWhole_toDigits (n : Nat) {rest : List Char} (h : EndsNumber rest) :
    readWhole (Nat.toDigits 10 n ++ rest) = (Nat.toDigits 10 n, rest) := by
  rcases Nat.eq_zero_or_pos n with rfl | hpos
  · rfl
  · obtain ⟨htake, hdrop⟩ := takeWhile_toDigits n h
    have hhead := head?_toDigits_ne hpos
    unfold readWhole
    split
    · next hinput =>
      rw [← List.head?_append_of_ne_nil _ Nat.toDigits_ne_nil, hinput] at hhead
      exact absurd rfl hhead
    · rw [htake, hdrop]

/-- A number is read back from its digits. -/
theorem readNumber_toDigits {n : Nat} (hdigits : (Nat.toDigits 10 n).length ≤ Text.maxDigits)
    (negative : Bool) {rest : List Char} (h : EndsNumber rest) :
    readNumber negative (Nat.toDigits 10 n ++ rest) =
      .ok (.int (if negative then -n else n), rest) := by
  have hwhole : (Nat.toDigits 10 n).isEmpty = false := by
    rw [List.isEmpty_eq_false_iff]
    exact Nat.toDigits_ne_nil
  rw [readNumber, readWhole_toDigits n h]
  dsimp only
  rw [hwhole, if_neg Bool.false_ne_true, readFraction_of_endsNumber h]
  dsimp only
  rw [readExponent_of_endsNumber h]
  dsimp only
  rw [if_neg (Nat.not_lt.2 hdigits), digitsValue_toDigits]

/-! ### Values without others in them -/

/-- A word that does not start with a digit does not stand where a digit is. -/
theorem behind?_of_isDigit (word : String) (hword : word.toList.head?.any fun d => !d.isDigit)
    {c : Char} (h : c.isDigit) (rest : List Char) : behind? word (c :: rest) = none := by
  rw [behind?, if_neg]
  cases htext : word.toList with
  | nil => exact fun _ => by rw [htext] at hword; cases hword
  | cons w ws =>
    rw [List.isPrefixOf, Bool.and_eq_true, beq_iff_eq]
    rintro ⟨rfl, -⟩
    rw [htext] at hword
    simp [h] at hword

/-- A value that starts with a digit is a number. -/
theorem readAtom_of_isDigit {c : Char} (h : c.isDigit) (rest : List Char) :
    readAtom (c :: rest) = readNumber false (c :: rest) := by
  unfold readAtom
  split
  · next hsign =>
    rw [(List.cons.inj hsign).1] at h
    cases h
  · simp only [List.findSome?_cons, behind?_of_isDigit "null" rfl h,
      behind?_of_isDigit "true" rfl h, behind?_of_isDigit "false" rfl h,
      behind?_of_isDigit "NaN" rfl h, behind?_of_isDigit "Infinity" rfl h, Option.map_none,
      List.findSome?_nil]

/-- A value that starts with a hyphen and a digit is a number below zero. -/
theorem readAtom_hyphen {c : Char} (h : c.isDigit) (rest : List Char) :
    readAtom ('-' :: c :: rest) = readNumber true (c :: rest) := by
  rw [readAtom, behind?_of_isDigit "Infinity" rfl h]

/-- The text of a whole number. -/
theorem toList_toString_int (value : Int) :
    (toString value).toList =
      if 0 ≤ value then Nat.toDigits 10 value.natAbs else '-' :: Nat.toDigits 10 value.natAbs := by
  rw [Int.toString_eq_repr, Int.repr_eq_if]
  split_ifs with hsign
  · rw [Nat.toList_repr, show value.toNat = value.natAbs by omega]
  · rw [String.toList_append, Nat.toList_repr, show (-value).toNat = value.natAbs by omega]
    rfl

/-- A whole number is read back. -/
theorem readAtom_int {value : Int}
    (hdigits : (Nat.toDigits 10 value.natAbs).length ≤ Text.maxDigits) {rest : List Char}
    (h : EndsNumber rest) :
    readAtom ((toString value).toList ++ rest) = .ok (.int value, rest) := by
  obtain ⟨c, others, hcons, hc⟩ := exists_toDigits_eq value.natAbs
  rw [toList_toString_int]
  split_ifs with hsign
  · have hread := readNumber_toDigits hdigits false h
    rw [hcons, List.cons_append] at hread ⊢
    rw [readAtom_of_isDigit hc, hread, if_neg Bool.false_ne_true, Int.natAbs_of_nonneg hsign]
  · have hread := readNumber_toDigits hdigits true h
    rw [hcons, List.cons_append] at hread
    rw [hcons, List.cons_append, List.cons_append, readAtom_hyphen hc, hread, if_pos rfl,
      show -(value.natAbs : Int) = value by omega]

/-! ### The parts of a written value -/

section Parts

variable (ascii : Bool)

theorem write_int (value : Int) : (int value).write ascii = (toString value).toList := rfl

theorem write_text (codes : Codes) : (text codes).write ascii = writeText ascii codes := rfl

theorem write_array (items : List Json) :
    (array items).write ascii = '[' :: writeItems ascii items ++ [']'] := rfl

theorem write_object (members : List (Codes × Json)) :
    (object members).write ascii = '\x7b' :: writeMembers ascii members ++ ['\x7d'] := rfl

theorem writeItems_singleton (item : Json) : writeItems ascii [item] = item.write ascii := rfl

theorem writeItems_cons_cons (item next : Json) (items : List Json) :
    writeItems ascii (item :: next :: items) =
      item.write ascii ++ ',' :: ' ' :: writeItems ascii (next :: items) := rfl

theorem writeMembers_singleton (key : Codes) (value : Json) :
    writeMembers ascii [(key, value)] =
      writeText ascii key ++ ':' :: ' ' :: value.write ascii := rfl

theorem writeMembers_cons_cons (key : Codes) (value : Json) (next : Codes × Json)
    (members : List (Codes × Json)) :
    writeMembers ascii ((key, value) :: next :: members) =
      writeText ascii key ++ ':' :: ' ' :: value.write ascii ++
        ',' :: ' ' :: writeMembers ascii (next :: members) := rfl

end Parts

/-- A written value starts with a character that is no blank and closes no array. -/
theorem exists_write_eq (ascii : Bool) {value : Json} (h : value.Proper) :
    ∃ c rest, value.write ascii = c :: rest ∧ isSpace c = false ∧ c ≠ ']' := by
  cases value with
  | null => exact ⟨'n', _, rfl, rfl, by decide⟩
  | bool value => cases value <;> exact ⟨_, _, rfl, rfl, by decide⟩
  | int value =>
    obtain ⟨c, rest, hcons, hc⟩ := exists_toDigits_eq value.natAbs
    rw [write_int, toList_toString_int, hcons]
    split_ifs
    · refine ⟨c, rest, rfl, ?_, ?_⟩
      · rw [isSpace]
        simp only [Bool.or_eq_false_iff, decide_eq_false_iff_not]
        refine ⟨⟨⟨?_, ?_⟩, ?_⟩, ?_⟩ <;> rintro rfl <;> cases hc
      · rintro rfl
        cases hc
    · exact ⟨'-', _, rfl, rfl, by decide⟩
  | real _ => exact h.elim
  | text codes => exact ⟨'"', _, rfl, rfl, by decide⟩
  | array items => exact ⟨'[', _, rfl, rfl, by decide⟩
  | object members => exact ⟨'\x7b', _, rfl, rfl, by decide⟩

theorem skipSpace_cons {c : Char} (h : isSpace c = false) (rest : List Char) :
    skipSpace (c :: rest) = c :: rest :=
  List.dropWhile_cons_of_neg (by rw [h]; exact Bool.false_ne_true)

/-- There is no blank in front of a written value. -/
theorem skipSpace_write (ascii : Bool) {value : Json} (h : value.Proper) (rest : List Char) :
    skipSpace (value.write ascii ++ rest) = value.write ascii ++ rest := by
  obtain ⟨c, more, heq, hspace, -⟩ := exists_write_eq ascii h
  rw [heq, List.cons_append, skipSpace_cons hspace]

/-- Written items start as the first of them. -/
theorem exists_writeItems_eq (ascii : Bool) {item : Json} (items : List Json) (h : item.Proper) :
    ∃ c rest, writeItems ascii (item :: items) = c :: rest ∧ isSpace c = false ∧ c ≠ ']' := by
  obtain ⟨c, rest, heq, hc⟩ := exists_write_eq ascii h
  cases items with
  | nil => exact ⟨c, rest, heq, hc⟩
  | cons next items => exact ⟨c, _, by rw [writeItems_cons_cons, heq, List.cons_append], hc⟩

theorem skipSpace_writeItems (ascii : Bool) {item : Json} (items : List Json) (h : item.Proper)
    (rest : List Char) :
    skipSpace (writeItems ascii (item :: items) ++ rest) =
      writeItems ascii (item :: items) ++ rest := by
  obtain ⟨c, more, heq, hspace, -⟩ := exists_writeItems_eq ascii items h
  rw [heq, List.cons_append, skipSpace_cons hspace]

/-- Written members start with a quote. -/
theorem exists_writeMembers_eq (ascii : Bool) (member : Codes × Json)
    (members : List (Codes × Json)) :
    ∃ rest, writeMembers ascii (member :: members) = '"' :: rest := by
  cases members with
  | nil => exact ⟨_, rfl⟩
  | cons next members => exact ⟨_, rfl⟩

theorem skipSpace_writeMembers (ascii : Bool) (member : Codes × Json)
    (members : List (Codes × Json)) (rest : List Char) :
    skipSpace (writeMembers ascii (member :: members) ++ rest) =
      writeMembers ascii (member :: members) ++ rest := by
  obtain ⟨more, heq⟩ := exists_writeMembers_eq ascii member members
  rw [heq, List.cons_append, skipSpace_cons rfl]

/-- What does not start with a quote or an opening bracket is read as a value of its own. -/
theorem readValue_cons {c : Char} (h : c ≠ '"' ∧ c ≠ '[' ∧ c ≠ '\x7b') (fuel room : Nat)
    (rest : List Char) : readValue (fuel + 1) room (c :: rest) = readAtom (c :: rest) := by
  rw [readValue]
  · exact fun he => nomatch he
  · exact fun _ _ _ he => absurd (List.cons.inj he).1 h.1
  · exact fun _ _ _ _ he => absurd (List.cons.inj he).1 h.2.1
  · exact fun _ _ _ _ _ he => absurd (List.cons.inj he).1 h.2.1
  · exact fun _ _ _ _ he => absurd (List.cons.inj he).1 h.2.2
  · exact fun _ _ _ _ _ he => absurd (List.cons.inj he).1 h.2.2

/-- A number is read as one. -/
theorem readValue_int {value : Int}
    (hdigits : (Nat.toDigits 10 value.natAbs).length ≤ Text.maxDigits) {rest : List Char}
    (h : EndsNumber rest) (fuel room : Nat) :
    readValue (fuel + 1) room ((toString value).toList ++ rest) = .ok (.int value, rest) := by
  rw [← readAtom_int hdigits h]
  obtain ⟨c, more, hcons, hc⟩ := exists_toDigits_eq value.natAbs
  rw [toList_toString_int, hcons]
  split_ifs
  · refine readValue_cons ⟨?_, ?_, ?_⟩ fuel room _ <;> rintro rfl <;> cases hc
  · exact readValue_cons (by decide) fuel room _

/-- A text in quotes is read as one. -/
theorem readValue_text (ascii : Bool) {codes : Codes} (h : ∀ n ∈ codes, n.isValidChar)
    {fuel : Nat} (hfuel : codes.length < fuel) (room : Nat) (rest : List Char) :
    readValue (fuel + 1) room (writeText ascii codes ++ rest) = .ok (.text codes, rest) := by
  have hread := readText_writeCodes ascii h hfuel [] rest
  rw [writeText, List.cons_append, List.cons_append, List.append_assoc, List.singleton_append,
    readValue, hread]
  rfl

/-- An array is read from its first item on. -/
theorem readValue_bracket {c : Char} (hspace : isSpace c = false) (hclose : c ≠ ']')
    (fuel room : Nat) (rest : List Char) :
    readValue (fuel + 1) (room + 1) ('[' :: c :: rest) = readItems fuel room [] (c :: rest) := by
  rw [readValue, skipSpace_cons hspace]
  split
  · next he => exact absurd (List.cons.inj he).1 hclose
  · rfl

/-- An object is read from its first member on. -/
theorem readValue_brace (fuel room : Nat) (rest : List Char) :
    readValue (fuel + 1) (room + 1) ('\x7b' :: '"' :: rest) =
      readMembers fuel room [] ('"' :: rest) := by
  rw [readValue, skipSpace_cons rfl]
  rfl

/-- An item is followed by the others behind a comma. -/
theorem readItems_of_comma {fuel room : Nat} {input rest : List Char} {item : Json}
    (h : readValue fuel room input = .ok (item, ',' :: ' ' :: rest)) (hspace : skipSpace rest = rest)
    (before : List Json) :
    readItems (fuel + 1) room before input = readItems fuel room (item :: before) rest := by
  rw [readItems, h]
  change readItems fuel room (item :: before) (skipSpace (' ' :: rest)) = _
  rw [skipSpace, List.dropWhile_cons_of_pos rfl]
  exact congrArg _ hspace

/-- The last item is followed by the closing bracket. -/
theorem readItems_of_bracket {fuel room : Nat} {input rest : List Char} {item : Json}
    (h : readValue fuel room input = .ok (item, ']' :: rest)) (before : List Json) :
    readItems (fuel + 1) room before input = .ok (.array (before.reverse ++ [item]), rest) := by
  rw [readItems, h, ← List.reverse_cons]
  rfl

section Members

variable {ascii : Bool} {key : Codes} {fuel room : Nat} {text rest : List Char} {value : Json}

/-- A member is followed by the others behind a comma. -/
theorem readMembers_of_comma (hkey : ∀ n ∈ key, n.isValidChar) (hfuel : key.length < fuel)
    (hstart : skipSpace text = text) (h : readValue fuel room text = .ok (value, ',' :: ' ' :: rest))
    (hspace : skipSpace rest = rest) (before : List (Codes × Json)) :
    readMembers (fuel + 1) room before (writeText ascii key ++ ':' :: ' ' :: text) =
      readMembers fuel room (Keyed.put key value before) rest := by
  have hread := readText_writeCodes ascii hkey hfuel [] (':' :: ' ' :: text)
  rw [writeText, List.cons_append, List.cons_append, List.append_assoc, List.singleton_append,
    readMembers, hread]
  change (readValue fuel room (skipSpace (' ' :: text)) >>= _) = _
  rw [skipSpace, List.dropWhile_cons_of_pos rfl, ← skipSpace, hstart, h]
  change readMembers fuel room _ (skipSpace (' ' :: rest)) = _
  rw [skipSpace, List.dropWhile_cons_of_pos rfl]
  exact congrArg _ hspace

/-- The last member is followed by the closing brace. -/
theorem readMembers_of_brace (hkey : ∀ n ∈ key, n.isValidChar) (hfuel : key.length < fuel)
    (hstart : skipSpace text = text) (h : readValue fuel room text = .ok (value, '\x7d' :: rest))
    (before : List (Codes × Json)) :
    readMembers (fuel + 1) room before (writeText ascii key ++ ':' :: ' ' :: text) =
      .ok (.object (Keyed.put key value before), rest) := by
  have hread := readText_writeCodes ascii hkey hfuel [] (':' :: ' ' :: text)
  rw [writeText, List.cons_append, List.cons_append, List.append_assoc, List.singleton_append,
    readMembers, hread]
  change (readValue fuel room (skipSpace (' ' :: text)) >>= _) = _
  rw [skipSpace, List.dropWhile_cons_of_pos rfl, ← skipSpace, hstart, h]
  rfl

end Members

/-! ### All values -/

theorem length_writeText (ascii : Bool) (codes : Codes) :
    codes.length + 2 ≤ (writeText ascii codes).length := by
  have := length_le_length_writeCodes ascii codes
  rw [writeText, List.length_append, List.length_cons, List.length_singleton]
  omega

theorem endsNumber_comma (rest : List Char) : EndsNumber (',' :: rest) :=
  EndsNumber.cons (by decide) rest

theorem endsNumber_brace (rest : List Char) : EndsNumber ('\x7d' :: rest) :=
  EndsNumber.cons (by decide) rest

/-- With this much fuel, values are read back whose texts are not longer, if there is room for
them. -/
def ReadsValues (ascii : Bool) (fuel : Nat) : Prop :=
  ∀ value : Json, value.Proper → (value.write ascii).length ≤ fuel → ∀ room, value.depth ≤ room →
    ∀ rest, EndsNumber rest →
      readValue fuel room (value.write ascii ++ rest) = .ok (value, rest)

/-- With this much fuel, items are read back whose texts are shorter, behind those before them. -/
def ReadsItems (ascii : Bool) (fuel : Nat) : Prop :=
  ∀ item items, ProperItems (item :: items) → (writeItems ascii (item :: items)).length < fuel →
    ∀ room, itemsDepth (item :: items) ≤ room →
      ∀ before rest, readItems fuel room before (writeItems ascii (item :: items) ++ ']' :: rest) =
        .ok (.array (before.reverse ++ item :: items), rest)

/-- With this much fuel, members are read back whose texts are shorter, behind those before them,
if no key comes up again. -/
def ReadsMembers (ascii : Bool) (fuel : Nat) : Prop :=
  ∀ member members, ProperMembers (member :: members) →
    (writeMembers ascii (member :: members)).length < fuel →
    ∀ room, membersDepth (member :: members) ≤ room →
      ∀ before rest, (Keyed.keys (before ++ member :: members)).Nodup →
        readMembers fuel room before (writeMembers ascii (member :: members) ++ '\x7d' :: rest) =
          .ok (.object (before ++ member :: members), rest)

section Fuel

variable {ascii : Bool} {fuel : Nat}

theorem readsValues_succ (hitems : ReadsItems ascii fuel) (hmembers : ReadsMembers ascii fuel) :
    ReadsValues ascii (fuel + 1) := by
  intro value h hfuel room hroom rest hrest
  match value with
  | null => exact readValue_cons (by decide) fuel room _
  | bool true => exact readValue_cons (by decide) fuel room _
  | bool false => exact readValue_cons (by decide) fuel room _
  | int value => exact readValue_int h hrest fuel room
  | real _ => exact h.elim
  | text codes =>
    have hlength := length_writeText ascii codes
    rw [write_text] at hfuel ⊢
    exact readValue_text ascii h (by omega) room rest
  | array [] =>
    obtain ⟨left, rfl⟩ := Nat.exists_eq_add_one_of_ne_zero (Nat.ne_zero_of_lt hroom)
    rfl
  | array (item :: items) =>
    obtain ⟨left, rfl⟩ := Nat.exists_eq_add_one_of_ne_zero (Nat.ne_zero_of_lt hroom)
    rw [write_array, List.length_append, List.length_cons, List.length_singleton] at hfuel
    have hread := hitems item items h (by omega) left (Nat.le_of_succ_le_succ hroom) [] rest
    obtain ⟨c, more, heq, hspace, hclose⟩ := exists_writeItems_eq ascii items h.1
    rw [heq, List.cons_append] at hread
    rw [write_array, heq, List.cons_append, List.cons_append, List.append_assoc,
      List.singleton_append, List.cons_append, readValue_bracket hspace hclose, hread,
      List.reverse_nil, List.nil_append]
  | object [] =>
    obtain ⟨left, rfl⟩ := Nat.exists_eq_add_one_of_ne_zero (Nat.ne_zero_of_lt hroom)
    rfl
  | object (member :: members) =>
    obtain ⟨left, rfl⟩ := Nat.exists_eq_add_one_of_ne_zero (Nat.ne_zero_of_lt hroom)
    rw [write_object, List.length_append, List.length_cons, List.length_singleton] at hfuel
    have hread :=
      hmembers member members h.2 (by omega) left (Nat.le_of_succ_le_succ hroom) [] rest h.1
    obtain ⟨more, heq⟩ := exists_writeMembers_eq ascii member members
    rw [heq, List.cons_append] at hread
    rw [write_object, heq, List.cons_append, List.cons_append, List.append_assoc,
      List.singleton_append, List.cons_append, readValue_brace, hread, List.nil_append]

theorem readsItems_succ (hvalues : ReadsValues ascii fuel) (hitems : ReadsItems ascii fuel) :
    ReadsItems ascii (fuel + 1) := by
  rintro item items ⟨hitem, hrest⟩ hfuel room hroom before rest
  obtain ⟨hitemRoom, hrestRoom⟩ := max_le_iff.1 hroom
  cases items with
  | nil =>
    rw [writeItems_singleton] at hfuel ⊢
    exact readItems_of_bracket
      (hvalues item hitem (by omega) room hitemRoom _ (EndsNumber.cons (by decide) rest)) before
  | cons next items =>
    rw [writeItems_cons_cons, List.length_append, List.length_cons, List.length_cons] at hfuel
    have hread := hvalues item hitem (by omega) room hitemRoom _
      (endsNumber_comma (' ' :: (writeItems ascii (next :: items) ++ ']' :: rest)))
    rw [writeItems_cons_cons, List.append_assoc, List.cons_append, List.cons_append,
      readItems_of_comma hread (skipSpace_writeItems ascii items hrest.1 _),
      hitems next items hrest (by omega) room hrestRoom, List.reverse_cons, List.append_assoc,
      List.singleton_append]

theorem readsMembers_succ (hvalues : ReadsValues ascii fuel) (hmembers : ReadsMembers ascii fuel) :
    ReadsMembers ascii (fuel + 1) := by
  rintro ⟨key, value⟩ members ⟨hkey, hvalue, hrest⟩ hfuel room hroom before rest hkeys
  obtain ⟨hvalueRoom, hrestRoom⟩ := max_le_iff.1 hroom
  have hlength := length_writeText ascii key
  have hput := Keyed.put_of_nodup hkeys
  cases members with
  | nil =>
    rw [writeMembers_singleton, List.length_append, List.length_cons, List.length_cons] at hfuel
    have hread := hvalues value hvalue (by omega) room hvalueRoom _ (endsNumber_brace rest)
    rw [writeMembers_singleton, List.append_assoc, List.cons_append, List.cons_append,
      readMembers_of_brace hkey (by omega) (skipSpace_write ascii hvalue _) hread, hput]
  | cons next members =>
    rw [writeMembers_cons_cons, List.length_append, List.length_append, List.length_cons,
      List.length_cons, List.length_cons, List.length_cons] at hfuel
    have hread := hvalues value hvalue (by omega) room hvalueRoom _
      (endsNumber_comma (' ' :: (writeMembers ascii (next :: members) ++ '\x7d' :: rest)))
    rw [writeMembers_cons_cons, List.append_assoc, List.append_assoc, List.cons_append,
      List.cons_append, List.cons_append, List.cons_append,
      readMembers_of_comma hkey (by omega) (skipSpace_write ascii hvalue _) hread
        (skipSpace_writeMembers ascii next members _), hput,
      hmembers next members hrest (by omega) room hrestRoom _ _
        (by rwa [List.append_assoc, List.singleton_append]), List.append_assoc,
      List.singleton_append]

end Fuel

theorem readsAll (ascii : Bool) (fuel : Nat) :
    ReadsValues ascii fuel ∧ ReadsItems ascii fuel ∧ ReadsMembers ascii fuel := by
  induction fuel with
  | zero =>
    refine ⟨fun value h hfuel => ?_, fun _ _ _ hfuel => ?_, fun _ _ _ hfuel => ?_⟩
    · obtain ⟨c, more, heq, -⟩ := exists_write_eq ascii h
      rw [heq] at hfuel
      exact absurd hfuel (Nat.not_succ_le_zero _)
    · exact absurd hfuel (Nat.not_lt_zero _)
    · exact absurd hfuel (Nat.not_lt_zero _)
  | succ fuel ih =>
    obtain ⟨hvalues, hitems, hmembers⟩ := ih
    exact ⟨readsValues_succ hitems hmembers, readsItems_succ hvalues hitems,
      readsMembers_succ hvalues hmembers⟩

/-- **A proper value is read back from its text** if there is room for its depth. -/
theorem read_write (ascii : Bool) {value : Json} (h : value.Proper) {room : Nat}
    (hroom : value.depth ≤ room) : read room (value.write ascii) = .ok value := by
  have hspace := skipSpace_write ascii h []
  have hread := (readsAll ascii (2 * (value.write ascii).length + 2)).1 value h (by omega) room
    hroom [] endsNumber_nil
  rw [List.append_nil] at hspace hread
  rw [read, hspace, hread]
  rfl

theorem read_toPlain {value : Json} (h : value.Proper) {room : Nat} (hroom : value.depth ≤ room) :
    read room value.toPlain.toList = .ok value := by
  rw [toPlain, String.toList_ofList]
  exact read_write false h hroom

theorem read_toAscii {value : Json} (h : value.Proper) {room : Nat} (hroom : value.depth ≤ room) :
    read room value.toAscii.toList = .ok value := by
  rw [toAscii, String.toList_ofList]
  exact read_write true h hroom

/-! ### No room -/

/-- Opening brackets are read until there is no room for the next one. -/
theorem readValue_brackets (room fuel : Nat) (rest : List Char) :
    readValue (2 * room + fuel + 1) room (List.replicate (room + 1) '[' ++ rest) =
      .error (.tooDeep "array") := by
  induction room generalizing fuel with
  | zero => rfl
  | succ room ih =>
    have hfuel : 2 * (room + 1) + fuel + 1 = 2 * room + fuel + 1 + 1 + 1 := by omega
    rw [hfuel, List.replicate_succ, List.replicate_succ, List.cons_append, List.cons_append,
      readValue_bracket rfl (by decide), readItems, ← List.cons_append, ← List.replicate_succ, ih]
    rfl

/-- More opening brackets than there is room for are too deep, whatever follows. -/
theorem read_brackets (room : Nat) (rest : List Char) :
    read room (List.replicate (room + 1) '[' ++ rest) = .error (.tooDeep "array") := by
  have hspace : skipSpace (List.replicate (room + 1) '[' ++ rest) =
      List.replicate (room + 1) '[' ++ rest := by
    rw [List.replicate_succ, List.cons_append, skipSpace_cons rfl]
  have hfuel : 2 * (List.replicate (room + 1) '[' ++ rest).length + 2 =
      2 * room + (2 * rest.length + 3) + 1 := by
    rw [List.length_append, List.length_replicate]
    omega
  rw [read, hspace, hfuel, readValue_brackets]
  rfl

end Shellbox.Json
