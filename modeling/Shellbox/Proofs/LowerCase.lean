import Mathlib.Data.List.Infix
import Mathlib.Tactic.SplitIfs
import Shellbox.Text.Blank
import Shellbox.Text.Case
import Shellbox.Text.Pieces
/-!
# Lower case in its surroundings

Of all characters the capital sigma alone has a lower-case form that depends on what stands around it.
What a text sees of its surroundings is little: whether the last character in front of it that counts
is cased, and whether the first one behind it is. With these two known, the text can be lowered by
itself (`lowerBetween`), and a longer text is lowered part by part (`lowerBetween_append`).

A text whose lower case is the same in all surroundings is found again in every text that it occurs in,
when both are lowered. There are others: a sigma is exposed if nothing that counts stands between it and
the end of the text on which its form depends (`SigmaExposed`). With a letter put at that end the text
is lost, since the longer text then has fewer sigmas of the form that is looked for. So the texts without
an exposed sigma are exactly those that are never lost (`infix_lower_iff`).

White space surrounds a text like nothing at all, and it is not made or changed by lowering
(`not_isBlank_of_mem_lower`, `lower_append_blanks`).
-/

namespace Shellbox.Text

/-! ### What is seen of the surroundings -/

/-- Whether the last character that counts is cased, for a text that follows on characters of which the
last that counts is cased or not. -/
def endsCased (afterCased : Bool) : List Char → Bool
  | [] => afterCased
  | c :: rest => endsCased (if isCaseIgnored c then afterCased else isCased c) rest

/-- Whether the first character that counts is cased, for a text in front of characters of which the
first that counts is cased or not. -/
def startsCasedBefore (beforeCased : Bool) : List Char → Bool
  | [] => beforeCased
  | c :: rest => if isCaseIgnored c then startsCasedBefore beforeCased rest else isCased c

/-- The lower-case form of a character, which is a sigma at the end of a word or not. -/
def lowerChar (final : Bool) (c : Char) : List Char :=
  if c = 'Σ' then [if final then 'ς' else 'σ']
  else if c = 'İ' then ['i', '\u0307']
  else [Char.ofNat (lowerCode c.toNat)]

/-- The lower-case form of a text between characters of which the nearest that count are cased or
not. -/
def lowerBetween (afterCased beforeCased : Bool) : List Char → List Char
  | [] => []
  | c :: rest =>
    lowerChar (afterCased && !startsCasedBefore beforeCased rest) c ++
      lowerBetween (if isCaseIgnored c then afterCased else isCased c) beforeCased rest

variable {after before : Bool} {text front back : List Char}

theorem startsCased_eq (text : List Char) : startsCased text = startsCasedBefore false text := by
  induction text with
  | nil => rfl
  | cons c rest ih =>
    rw [startsCasedBefore, startsCased, List.dropWhile_cons]
    split_ifs
    · exact ih
    · rfl

/-- A text is lowered as one with nothing behind it. -/
theorem lowerAfter_eq (after : Bool) (text : List Char) :
    lowerAfter after text = lowerBetween after false text := by
  induction text generalizing after with
  | nil => rfl
  | cons c rest ih =>
    rw [lowerAfter, lowerBetween, ih, startsCased_eq, lowerChar]
    by_cases hsigma : c = 'Σ'
    · subst hsigma
      rfl
    · by_cases hdotted : c = 'İ'
      · subst hdotted
        rfl
      · simp [hsigma, hdotted]

theorem lower_eq (text : List Char) : lower text = lowerBetween false false text :=
  lowerAfter_eq false text

theorem startsCasedBefore_append (before : Bool) (front back : List Char) :
    startsCasedBefore before (front ++ back) =
      startsCasedBefore (startsCasedBefore before back) front := by
  induction front with
  | nil => rfl
  | cons c rest ih => rw [List.cons_append, startsCasedBefore, startsCasedBefore, ih]

/-- **A text is lowered part by part**, each part between the parts around it. -/
theorem lowerBetween_append (after before : Bool) (front back : List Char) :
    lowerBetween after before (front ++ back) =
      lowerBetween after (startsCasedBefore before back) front ++
        lowerBetween (endsCased after front) before back := by
  induction front generalizing after with
  | nil => rfl
  | cons c rest ih =>
    rw [List.cons_append, lowerBetween, lowerBetween, ih, startsCasedBefore_append,
      List.append_assoc, endsCased]

theorem endsCased_of_ignored (h : ∀ c ∈ text, isCaseIgnored c) (after : Bool) :
    endsCased after text = after := by
  induction text with
  | nil => rfl
  | cons c rest ih =>
    obtain ⟨hc, hrest⟩ := List.forall_mem_cons.1 h
    rw [endsCased, if_pos hc, ih hrest]

theorem startsCasedBefore_of_ignored (h : ∀ c ∈ text, isCaseIgnored c) (before : Bool) :
    startsCasedBefore before text = before := by
  induction text with
  | nil => rfl
  | cons c rest ih =>
    obtain ⟨hc, hrest⟩ := List.forall_mem_cons.1 h
    rw [startsCasedBefore, if_pos hc, ih hrest]

/-- Behind a text with a character that counts, nothing in front of it is seen any more. -/
theorem endsCased_eq_of_not_ignored (h : ¬∀ c ∈ text, isCaseIgnored c) (after other : Bool) :
    endsCased after text = endsCased other text := by
  induction text generalizing after other with
  | nil => exact absurd (fun _ hc => absurd hc List.not_mem_nil) h
  | cons c rest ih =>
    rw [endsCased, endsCased]
    by_cases hc : isCaseIgnored c
    · rw [if_pos hc, if_pos hc]
      exact ih (fun hrest => h (List.forall_mem_cons.2 ⟨hc, hrest⟩)) after other
    · rw [if_neg hc, if_neg hc]

/-- In front of a text with a character that counts, nothing behind it is seen any more. -/
theorem startsCasedBefore_eq_of_not_ignored (h : ¬∀ c ∈ text, isCaseIgnored c)
    (before other : Bool) : startsCasedBefore before text = startsCasedBefore other text := by
  induction text with
  | nil => exact absurd (fun _ hc => absurd hc List.not_mem_nil) h
  | cons c rest ih =>
    rw [startsCasedBefore, startsCasedBefore]
    by_cases hc : isCaseIgnored c
    · rw [if_pos hc, if_pos hc]
      exact ih fun hrest => h (List.forall_mem_cons.2 ⟨hc, hrest⟩)
    · rw [if_neg hc, if_neg hc]

/-! ### The capital sigma -/

theorem isCased_sigma : isCased 'Σ' = true := by decide +kernel

theorem isCaseIgnored_sigma : isCaseIgnored 'Σ' = false := by decide +kernel

/-- A text around a capital sigma is lowered around it. -/
theorem lowerBetween_sigma (after before : Bool) (front back : List Char) :
    lowerBetween after before (front ++ 'Σ' :: back) =
      lowerBetween after true front ++
        (if endsCased after front && !startsCasedBefore before back then 'ς' else 'σ') ::
          lowerBetween true before back := by
  rw [lowerBetween_append, startsCasedBefore, lowerBetween, isCaseIgnored_sigma]
  simp [isCased_sigma, lowerChar]

/-- Of any other character the surroundings make no difference. -/
theorem lowerChar_of_ne {c : Char} (h : c ≠ 'Σ') (final other : Bool) :
    lowerChar final c = lowerChar other c := by
  rw [lowerChar, lowerChar, if_neg h, if_neg h]

/-- Without a capital sigma the surroundings make no difference. -/
theorem lowerBetween_of_not_mem (h : 'Σ' ∉ text) (after before other another : Bool) :
    lowerBetween after before text = lowerBetween other another text := by
  induction text generalizing after other with
  | nil => rfl
  | cons c rest ih =>
    obtain ⟨hc, hrest⟩ := not_or.1 (mt List.mem_cons.2 h)
    rw [lowerBetween, lowerBetween, ih hrest, lowerChar_of_ne (Ne.symm hc)]

theorem sigma_not_mem_of_ignored (h : ∀ c ∈ text, isCaseIgnored c) : 'Σ' ∉ text := by
  intro hmem
  have hignored := h _ hmem
  rw [isCaseIgnored_sigma] at hignored
  cases hignored

/-- A capital sigma of the text has a lower-case form that depends on what stands around the text: the
last character before it that counts is cased and none behind it counts, or none before it counts and
the first one behind it that counts, if there is one, is not cased. -/
def SigmaExposed (text : List Char) : Prop :=
  ∃ front back, text = front ++ 'Σ' :: back ∧
    ((endsCased false front = true ∧ ∀ c ∈ back, isCaseIgnored c) ∨
      ((∀ c ∈ front, isCaseIgnored c) ∧ startsCasedBefore false back = false))

/-- A sigma that is not exposed ends a word in all surroundings or in none. -/
theorem ends_word_eq (hback : ¬(endsCased false front = true ∧ ∀ c ∈ back, isCaseIgnored c))
    (hfront : ¬((∀ c ∈ front, isCaseIgnored c) ∧ startsCasedBefore false back = false))
    (after before : Bool) :
    (endsCased after front && !startsCasedBefore before back) =
      (endsCased false front && !startsCasedBefore false back) := by
  by_cases hignored : ∀ c ∈ front, isCaseIgnored c
  · have hstarts : startsCasedBefore false back = true :=
      eq_true_of_ne_false fun h => hfront ⟨hignored, h⟩
    have hcounts : ¬∀ c ∈ back, isCaseIgnored c := fun h => by
      rw [startsCasedBefore_of_ignored h] at hstarts
      cases hstarts
    rw [startsCasedBefore_eq_of_not_ignored hcounts before false, hstarts, Bool.not_true,
      Bool.and_false, Bool.and_false]
  · rw [endsCased_eq_of_not_ignored hignored after false]
    cases hends : endsCased false front with
    | false => rfl
    | true =>
      have hcounts : ¬∀ c ∈ back, isCaseIgnored c := fun h => hback ⟨hends, h⟩
      rw [startsCasedBefore_eq_of_not_ignored hcounts before false]

theorem endsCased_concat (after : Bool) (front : List Char) (c : Char) :
    endsCased after (front ++ [c]) =
      if isCaseIgnored c then endsCased after front else isCased c := by
  induction front generalizing after with
  | nil => rfl
  | cons first rest ih => exact ih _

/-- Without an exposed sigma the surroundings make no difference. -/
theorem lowerBetween_eq_lower (h : ¬SigmaExposed text) (after before : Bool) :
    lowerBetween after before text = lower text := by
  -- the part in front of what is still to be lowered is kept, since the sigmas see it
  have hpart : ∀ back front, text = front ++ back →
      lowerBetween (endsCased after front) before back =
        lowerBetween (endsCased false front) false back := by
    intro back
    induction back with
    | nil => exact fun _ _ => rfl
    | cons c rest ih =>
      intro front htext
      have hrest := ih (front ++ [c]) (by rw [htext, List.append_assoc, List.singleton_append])
      rw [endsCased_concat, endsCased_concat] at hrest
      rw [lowerBetween, lowerBetween, hrest]
      by_cases hc : c = 'Σ'
      · subst hc
        have hsame := ends_word_eq (fun hback => h ⟨front, rest, htext, Or.inl hback⟩)
          (fun hfront => h ⟨front, rest, htext, Or.inr hfront⟩) after before
        rw [hsame]
      · rw [lowerChar_of_ne hc]
  rw [lower_eq]
  exact hpart text [] rfl

/-! ### Occurrences -/

theorem occursIn_iff_infix {α : Type} [DecidableEq α] {needle text : List α} :
    occursIn needle text = true ↔ needle <:+: text := by
  induction text with
  | nil => simp [occursIn]
  | cons c rest ih =>
    rw [occursIn, Bool.or_eq_true, List.isPrefixOf_iff_prefix, ih, List.infix_cons_iff]

/-- A text without an exposed sigma is found in lower case wherever it occurs. -/
theorem lower_infix_lower {line : List Char} (h : ¬SigmaExposed text) (hin : text <:+: line) :
    lower text <:+: lower line := by
  obtain ⟨front, back, rfl⟩ := hin
  rw [lower_eq (front ++ text ++ back), lowerBetween_append, lowerBetween_append,
    lowerBetween_eq_lower h]
  exact List.infix_append _ _ _

theorem lowerBetween_letter (after before : Bool) : lowerBetween after before ['a'] = ['a'] := by
  rw [lowerBetween, lowerChar_of_ne (by decide) _ false]
  rfl

/-- A text with an exposed sigma is lost in lower case next to a letter. -/
theorem not_lower_infix_lower (h : SigmaExposed text) :
    ¬lower text <:+: lower (text ++ ['a']) ∨ ¬lower text <:+: lower ('a' :: text) := by
  have hletter : isCased 'a' = true ∧ isCaseIgnored 'a' = false := by decide +kernel
  obtain ⟨front, back, rfl, ⟨hends, hback⟩ | ⟨hfront, hstarts⟩⟩ := h
  · -- with the letter behind it the sigma ends no word
    have halone : lower (front ++ 'Σ' :: back) =
        lowerBetween false true front ++ 'ς' :: lowerBetween true false back := by
      rw [lower_eq, lowerBetween_sigma, hends, startsCasedBefore_of_ignored hback]
      rfl
    have hlonger : lower (front ++ 'Σ' :: back ++ ['a']) =
        lowerBetween false true front ++ 'σ' :: (lowerBetween true false back ++ ['a']) := by
      rw [lower_eq, List.append_assoc, List.cons_append, lowerBetween_sigma,
        startsCasedBefore_append, startsCasedBefore_of_ignored hback, lowerBetween_append,
        lowerBetween_letter, startsCasedBefore, hletter.1, hletter.2,
        lowerBetween_of_not_mem (sigma_not_mem_of_ignored hback) true _ true false]
      simp
    refine Or.inl fun hin => (hin.sublist.count_le 'ς').not_gt ?_
    rw [halone, hlonger]
    simp [List.count_append]
  · -- with the letter in front of it the sigma ends a word
    have halone : lower (front ++ 'Σ' :: back) =
        lowerBetween false true front ++ 'σ' :: lowerBetween true false back := by
      rw [lower_eq, lowerBetween_sigma, endsCased_of_ignored hfront]
      rfl
    have hlonger : lower ('a' :: (front ++ 'Σ' :: back)) =
        'a' :: (lowerBetween false true front ++ 'ς' :: lowerBetween true false back) := by
      have hends : endsCased (endsCased false ['a']) front = true := by
        rw [endsCased_of_ignored hfront, endsCased, hletter.1, hletter.2]
        rfl
      rw [lower_eq, ← List.singleton_append, lowerBetween_append, lowerBetween_letter,
        lowerBetween_sigma, hends, hstarts,
        lowerBetween_of_not_mem (sigma_not_mem_of_ignored hfront) _ true false true]
      rfl
    refine Or.inr fun hin => (hin.sublist.count_le 'σ').not_gt ?_
    rw [halone, hlonger]
    simp [List.count_append]

/-- **Which texts are found again.** A text is found in lower case in whatever text it occurs, exactly
if no capital sigma of it is exposed. -/
theorem infix_lower_iff :
    (∀ line, text <:+: line → lower text <:+: lower line) ↔ ¬SigmaExposed text := by
  refine ⟨fun hall hexposed => ?_, fun h line hin => lower_infix_lower h hin⟩
  rcases not_lower_infix_lower hexposed with hbehind | hfront
  · exact hbehind (hall _ (List.prefix_append _ _).isInfix)
  · exact hfront (hall _ (List.suffix_cons _ _).isInfix)

/-! ### White space -/

/-- White space as ranges of code points. -/
def blankRanges : Ranges :=
  [(9, 13), (28, 32), (0x85, 0x85), (0xA0, 0xA0), (0x1680, 0x1680), (0x2000, 0x200A), (0x2028, 0x2029),
    (0x202F, 0x202F), (0x205F, 0x205F), (0x3000, 0x3000)]

theorem exists_blankRange {n : Nat} (h : isBlankCode n = true) :
    ∃ range ∈ blankRanges, range.1 ≤ n ∧ n ≤ range.2 := by
  simp [isBlankCode] at h
  simp [blankRanges]
  omega

theorem exists_range_of_has {ranges : Ranges} {n : Nat} (h : ranges.has n = true) :
    ∃ range ∈ ranges, range.1 ≤ n ∧ n ≤ range.2 := by
  induction ranges with
  | nil => cases h
  | cons range rest ih =>
    obtain ⟨first, last⟩ := range
    rw [Ranges.has] at h
    split_ifs at h with hfirst
    rcases Bool.or_eq_true_iff.1 h with hlast | hrest
    · exact ⟨_, List.mem_cons_self, Nat.not_lt.1 hfirst, of_decide_eq_true hlast⟩
    · obtain ⟨range, hrange, hn⟩ := ih hrest
      exact ⟨range, List.mem_cons_of_mem _ hrange, hn⟩

/-- A case map leaves a code point alone or takes it from one of its runs to the image of the run. -/
theorem mapCase_cases (runs : List CaseRun) (n : Nat) :
    mapCase runs n = n ∨
      ∃ run ∈ runs, run.1 ≤ n ∧ n ≤ run.2.1 ∧ mapCase runs n = run.2.2.2 + (n - run.1) := by
  induction runs with
  | nil => exact Or.inl rfl
  | cons run rest ih =>
    obtain ⟨first, last, step, image⟩ := run
    rw [mapCase]
    split_ifs with hrun
    · simp only [Bool.and_eq_true, decide_eq_true_eq] at hrun
      exact Or.inr ⟨_, List.mem_cons_self, hrun.1.1, hrun.1.2, rfl⟩
    · rcases ih with hsame | ⟨run, hrun, himage⟩
      · exact Or.inl hsame
      · exact Or.inr ⟨run, List.mem_cons_of_mem _ hrun, himage⟩

/-- No run of the map to lower case starts from white space or leads to it. -/
theorem lowerRuns_avoid_blanks : ∀ run ∈ lowerRuns, ∀ range ∈ blankRanges,
    (run.2.1 < range.1 ∨ range.2 < run.1) ∧
      (run.2.2.2 + (run.2.1 - run.1) < range.1 ∨ range.2 < run.2.2.2) := by
  decide +kernel

/-- White space has no case. -/
theorem casedRanges_avoid_blanks : ∀ cased ∈ casedRanges, ∀ range ∈ blankRanges,
    cased.2 < range.1 ∨ range.2 < cased.1 := by
  decide +kernel

/-- Lowering makes no white space. -/
theorem isBlankCode_of_lowerCode {n : Nat} (h : isBlankCode (lowerCode n) = true) :
    isBlankCode n = true := by
  rw [lowerCode] at h
  split_ifs at h with hascii hcapital
  · simp only [Bool.and_eq_true, decide_eq_true_eq] at hcapital
    simp [isBlankCode] at h
    omega
  · exact h
  · rcases mapCase_cases lowerRuns n with hsame | ⟨run, hrun, hfirst, hlast, himage⟩
    · rwa [hsame] at h
    · obtain ⟨range, hrange, hn⟩ := exists_blankRange h
      have havoid := (lowerRuns_avoid_blanks run hrun range hrange).2
      omega

/-- White space is its own lower case. -/
theorem lowerCode_of_isBlankCode {n : Nat} (h : isBlankCode n = true) : lowerCode n = n := by
  obtain ⟨range, hrange, hn⟩ := exists_blankRange h
  rw [lowerCode]
  split_ifs with hascii hcapital
  · simp only [Bool.and_eq_true, decide_eq_true_eq] at hcapital
    simp [isBlankCode] at h
    omega
  · rfl
  · rcases mapCase_cases lowerRuns n with hsame | ⟨run, hrun, hfirst, hlast, himage⟩
    · exact hsame
    · have havoid := (lowerRuns_avoid_blanks run hrun range hrange).1
      omega

theorem isBlankCode_of_isBlank_ofNat {n : Nat} (h : isBlank (Char.ofNat n) = true) :
    isBlankCode n = true := by
  unfold Char.ofNat at h
  by_cases hvalid : n.isValidChar
  · rw [dif_pos hvalid] at h
    exact h
  · rw [dif_neg hvalid] at h
    cases h

theorem isBlank_of_mem_lowerChar {final : Bool} {c d : Char} (hd : d ∈ lowerChar final c)
    (h : isBlank d = true) : isBlank c = true := by
  rw [lowerChar] at hd
  split_ifs at hd with hsigma hfinal hdotted
  · obtain rfl := List.mem_singleton.1 hd
    cases h
  · obtain rfl := List.mem_singleton.1 hd
    cases h
  · rcases List.mem_cons.1 hd with rfl | hd
    · cases h
    · obtain rfl := List.mem_singleton.1 hd
      cases h
  · obtain rfl := List.mem_singleton.1 hd
    exact isBlankCode_of_lowerCode (isBlankCode_of_isBlank_ofNat h)

/-- In lower case a text without white space has none either. -/
theorem not_isBlank_of_mem_lower (h : ∀ c ∈ text, isBlank c = false) :
    ∀ d ∈ lower text, isBlank d = false := by
  have hbetween : ∀ after, ∀ d ∈ lowerBetween after false text, isBlank d = false := by
    induction text with
    | nil => exact fun _ _ hd => absurd hd List.not_mem_nil
    | cons c rest ih =>
      obtain ⟨hc, hrest⟩ := List.forall_mem_cons.1 h
      intro after d hd
      rcases List.mem_append.1 hd with hd | hd
      · exact Bool.eq_false_iff.2 fun hblank =>
          Bool.eq_false_iff.1 hc (isBlank_of_mem_lowerChar hd hblank)
      · exact ih hrest _ d hd
  rw [lower_eq]
  exact hbetween false

theorem lowerChar_of_isBlank {c : Char} (h : isBlank c = true) (final : Bool) :
    lowerChar final c = [c] := by
  have hsigma : c ≠ 'Σ' := by
    rintro rfl
    cases h
  have hdotted : c ≠ 'İ' := by
    rintro rfl
    cases h
  rw [lowerChar, if_neg hsigma, if_neg hdotted, lowerCode_of_isBlankCode h, Char.ofNat_toNat]

theorem isCased_of_isBlank {c : Char} (h : isBlank c = true) : isCased c = false := by
  refine Bool.eq_false_iff.2 fun hcased => ?_
  obtain ⟨range, hrange, hblank⟩ := exists_blankRange h
  obtain ⟨cased, hmem, hn⟩ := exists_range_of_has hcased
  have havoid := casedRanges_avoid_blanks cased hmem range hrange
  omega

/-- White space behind a text is like nothing behind it. -/
theorem lower_append_blanks {blanks : List Char} (h : ∀ c ∈ blanks, isBlank c) (text : List Char) :
    lower (text ++ blanks) = lower text ++ blanks := by
  have hstarts : startsCasedBefore false blanks = false := by
    induction blanks with
    | nil => rfl
    | cons c rest ih =>
      obtain ⟨hc, hrest⟩ := List.forall_mem_cons.1 h
      rw [startsCasedBefore, ih hrest, isCased_of_isBlank hc, ite_self]
  have hblanks : ∀ after, lowerBetween after false blanks = blanks := by
    clear hstarts
    induction blanks with
    | nil => exact fun _ => rfl
    | cons c rest ih =>
      obtain ⟨hc, hrest⟩ := List.forall_mem_cons.1 h
      intro after
      rw [lowerBetween, lowerChar_of_isBlank hc, ih hrest]
      rfl
  rw [lower_eq, lowerBetween_append, hstarts, hblanks, lower_eq]

end Shellbox.Text
