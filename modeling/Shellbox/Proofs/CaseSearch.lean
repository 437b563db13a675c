import Shellbox.Proofs.FoundLines
import Shellbox.Proofs.LowerCase
/-!
# Searching without regard to letter case

With `-i` the text is looked for in lower case in the lower case of each line. One expects that this only
adds lines to those that are found without it. So it is for all texts that are found again in lower case
wherever they occur, which are those without an exposed capital sigma (`Text.infix_lower_iff`), and for
texts that occur in no line, as they hold a character that ends lines. Any other text is lost in some
line, and a file with that line is one in which `grep` finds the text and `grep -i` does not
(`found_ignoring_iff`).
-/

namespace Shellbox.Shell

variable {tree : FileTree} {cwd : Path} {text : String}

namespace GrepRequest

variable {request : GrepRequest}

/-- The flags of `grep`. -/
def flags : List String :=
  ["-r", "-R", "--recursive", "-i", "--ignore-case", "-n", "--line-number", "-E", "--regex"]

/-- An argument that is no flag is what to look for, or where. -/
theorem take_of_not_flag {arg : String} (h : arg ∉ flags) (request : GrepRequest) :
    request.take arg =
      match request.pattern with
      | none => { request with pattern := some arg }
      | some _ => { request with paths := request.paths ++ [arg] } := by
  have hne : ∀ flag ∈ flags, arg ≠ flag := fun flag hflag heq => h (heq ▸ hflag)
  unfold take
  split <;> first | rfl | exact absurd rfl (hne _ (by decide))

/-- The same request without regard to letter case. -/
def ignoring (request : GrepRequest) : GrepRequest := { request with ignoreCase := true }

theorem take_ignoring (request : GrepRequest) (arg : String) :
    request.ignoring.take arg = (request.take arg).ignoring := by
  obtain ⟨deep, usesPattern, ignoreCase, numbered, pattern, paths⟩ := request
  cases pattern with
  | none => unfold take; split <;> rfl
  | some text => unfold take; split <;> rfl

/-- Wherever the flag stands among the arguments, it changes nothing else. -/
theorem ofArgs_ignoring (front back : List String) :
    ofArgs (front ++ "-i" :: back) = (ofArgs (front ++ back)).ignoring := by
  rw [ofArgs, ofArgs, List.foldl_append, List.foldl_cons, List.foldl_append]
  exact List.foldl_hom ignoring (H := fun request arg => take_ignoring request arg)

theorem Searches.ignoring (h : request.Searches tree cwd text) :
    request.ignoring.Searches tree cwd text :=
  ⟨h.text, h.plain, h.located, h.clear⟩

/-- What the request shows. -/
def answer (request : GrepRequest) (tree : FileTree) (cwd : Path) : String :=
  Text.joinWith "\n" ((request.found tree cwd).map (FileLine.render request.numbered))

end GrepRequest

/-- A text that is looked for without regard to letter case is still found where it occurs, if it has no
exposed sigma or no line holds it. -/
theorem textTest_ignoring {line : List Char} (hline : ∀ c ∈ line, Text.endsLine c = false)
    (h : (∃ c ∈ text.toList, Text.endsLine c = true) ∨ ¬Text.SigmaExposed text.toList)
    (hfound : textTest false text.toList line = true) : textTest true text.toList line = true := by
  have hin := Text.occursIn_iff_infix.1 hfound
  rcases h with ⟨c, hc, hends⟩ | hexposed
  · rw [hline c (hin.subset hc)] at hends
    cases hends
  · exact Text.occursIn_iff_infix.2 (Text.lower_infix_lower hexposed hin)

theorem not_endsLine_of_mem_searchedLines {line : FileLine} {deep : Bool} {given : List String}
    (h : line ∈ searchedLines tree cwd deep given) : ∀ c ∈ line.text, Text.endsLine c = false := by
  obtain ⟨target, -, hfiles⟩ := List.mem_flatMap.1 h
  obtain ⟨file, -, hline⟩ := List.mem_flatMap.1 hfiles
  obtain ⟨⟨found, number⟩, hfound, rfl⟩ := List.mem_map.1 hline
  exact Text.not_endsLine_of_mem_lines (List.fst_mem_of_mem_zipIdx hfound)

/-- The lines that such a text is found in are among those that it is found in without regard to letter
case, and stand there in the same order. -/
theorem found_sublist_ignoring {request : GrepRequest} (hsearches : request.Searches tree cwd text)
    (h : (∃ c ∈ text.toList, Text.endsLine c = true) ∨ ¬Text.SigmaExposed text.toList) :
    (request.found tree cwd).Sublist (request.ignoring.found tree cwd) := by
  have htest : ∀ line ∈ searchedLines tree cwd request.deep request.targets,
      textTest request.ignoreCase text.toList line.text =
        (textTest request.ignoreCase text.toList line.text &&
          textTest true text.toList line.text) := by
    intro line hline
    cases hfound : textTest request.ignoreCase text.toList line.text with
    | false => rfl
    | true =>
      cases hcase : request.ignoreCase with
      | true =>
        rw [hcase] at hfound
        rw [hfound, Bool.and_self]
      | false =>
        rw [hcase] at hfound
        rw [textTest_ignoring (not_endsLine_of_mem_searchedLines hline) h hfound, Bool.and_self]
  have hplain : request.found tree cwd =
      (request.ignoring.found tree cwd).filter
        (textTest request.ignoreCase text.toList ·.text) := by
    rw [GrepRequest.found, GrepRequest.found, GrepRequest.ignoring, GrepRequest.targets,
      ← GrepRequest.targets, hsearches.text, List.filter_filter]
    exact List.filter_congr htest
  rw [hplain]
  exact List.filter_sublist

/-- The tree with one file, which holds one line. -/
def oneLine (line : List Char) : FileTree := ⟨.fresh 0, .file "f" (.fresh 0) (String.ofList line) .nil⟩

theorem searchedLines_oneLine {line : List Char} (hline : ∀ c ∈ line, Text.endsLine c = false)
    (hne : line ≠ []) : searchedLines (oneLine line) [] false ["f"] = [⟨["f"], 1, line⟩] := by
  have hread : Path.readFrom [] "f" = ["f"] := by decide +kernel
  have hfiles : (oneLine line).files ["f"] false = .ok [(["f"], String.ofList line)] := rfl
  rw [searchedLines, List.flatMap_singleton, hread, hfiles, Except.toOption, Option.getD_some,
    List.flatMap_singleton, linesOfFile, String.toList_ofList, Text.lines_of_not_endsLine hline hne]
  rfl

/-- A text with a capital sigma is no flag. -/
theorem ofArgs_of_sigma (h : 'Σ' ∈ text.toList) :
    GrepRequest.ofArgs [text, "f"] = { pattern := some text, paths := ["f"] } := by
  have hflags : ∀ flag ∈ GrepRequest.flags, 'Σ' ∉ flag.toList := by decide
  have htext : text ∉ GrepRequest.flags := fun hmem => hflags text hmem h
  have hfile : "f" ∉ GrepRequest.flags := by decide
  rw [GrepRequest.ofArgs, List.foldl_cons, List.foldl_cons, GrepRequest.take_of_not_flag htext,
    GrepRequest.take_of_not_flag hfile]
  rfl

theorem searches_of_sigma {line : List Char} (h : 'Σ' ∈ text.toList) :
    (GrepRequest.ofArgs [text, "f"]).Searches (oneLine line) [] text := by
  rw [ofArgs_of_sigma h]
  refine ⟨rfl, rfl, nofun, ?_⟩
  have hread : Path.readFrom [] "f" = ["f"] := by decide +kernel
  have hdir : (oneLine line).hasDir ["f"] = false := rfl
  have hholds : (oneLine line).holds ["f"] = true := rfl
  change grepObstacle? (oneLine line) [] false ["f"] = none
  simp [grepObstacle?, hread, hdir, hholds]

/-- A text with an exposed sigma that can be in a line at all is in one in which it is lost. -/
theorem exists_line_of_sigmaExposed (hends : ∀ c ∈ text.toList, Text.endsLine c = false)
    (h : Text.SigmaExposed text.toList) :
    ∃ line, (∀ c ∈ line, Text.endsLine c = false) ∧ textTest false text.toList line = true ∧
      textTest true text.toList line = false := by
  have hletter : Text.endsLine 'a' = false := by decide +kernel
  rcases Text.not_lower_infix_lower h with hlost | hlost
  · exact ⟨text.toList ++ ['a'], List.forall_mem_append.2 ⟨hends, List.forall_mem_singleton.2 hletter⟩,
      Text.occursIn_iff_infix.2 (List.prefix_append _ _).isInfix,
      Bool.eq_false_iff.2 fun hfound => hlost (Text.occursIn_iff_infix.1 hfound)⟩
  · exact ⟨'a' :: text.toList, List.forall_mem_cons.2 ⟨hletter, hends⟩,
      Text.occursIn_iff_infix.2 (List.suffix_cons _ _).isInfix,
      Bool.eq_false_iff.2 fun hfound => hlost (Text.occursIn_iff_infix.1 hfound)⟩

/-- A text with an exposed sigma that can be in a line at all is found in some file, and nothing is found
there without regard to letter case. -/
theorem exists_tree_of_sigmaExposed (hends : ∀ c ∈ text.toList, Text.endsLine c = false)
    (h : Text.SigmaExposed text.toList) :
    ∃ tree, (GrepRequest.ofArgs [text, "f"]).Searches tree [] text ∧
      (GrepRequest.ofArgs [text, "f"]).found tree [] ≠ [] ∧
      (GrepRequest.ofArgs ["-i", text, "f"]).found tree [] = [] := by
  have hsigma : 'Σ' ∈ text.toList := by
    obtain ⟨front, back, htext, -⟩ := h
    rw [htext]
    exact List.mem_append_right _ List.mem_cons_self
  obtain ⟨line, hline, hplain, hlost⟩ := exists_line_of_sigmaExposed hends h
  have hne : line ≠ [] := by
    rintro rfl
    have hempty := List.eq_nil_of_infix_nil (Text.occursIn_iff_infix.1 hplain)
    rw [hempty] at hsigma
    cases hsigma
  have hsearched := searchedLines_oneLine hline hne
  refine ⟨oneLine line, searches_of_sigma hsigma, ?_, ?_⟩
  · rw [ofArgs_of_sigma hsigma]
    simp [GrepRequest.found, GrepRequest.targets, hsearched, hplain]
  · rw [← List.nil_append ["-i", text, "f"], GrepRequest.ofArgs_ignoring, List.nil_append,
      ofArgs_of_sigma hsigma]
    simp [GrepRequest.found, GrepRequest.ignoring, GrepRequest.targets, hsearched, hlost]

/-- **When letter case only adds lines.** Wherever `-i` is put among the arguments of a search for a
text that has nothing to complain about, the lines that are found without it are still found, in all
sessions, exactly if the text holds a character that ends lines or has no exposed sigma. -/
theorem found_ignoring_iff (text : String) :
    (∀ (session : Session) (front back : List String),
        (GrepRequest.ofArgs (front ++ back)).Searches session.tree session.cwd text →
          grep session.tree session.cwd (front ++ back) =
              .ok ((GrepRequest.ofArgs (front ++ back)).answer session.tree session.cwd) ∧
            grep session.tree session.cwd (front ++ "-i" :: back) =
              .ok ((GrepRequest.ofArgs (front ++ "-i" :: back)).answer session.tree session.cwd) ∧
            ((GrepRequest.ofArgs (front ++ back)).found session.tree session.cwd).Sublist
              ((GrepRequest.ofArgs (front ++ "-i" :: back)).found session.tree session.cwd)) ↔
      (∃ c ∈ text.toList, Text.endsLine c = true) ∨ ¬Text.SigmaExposed text.toList := by
  constructor
  · intro hall
    by_contra hunsafe
    obtain ⟨hends, hexposed⟩ := not_or.1 hunsafe
    obtain ⟨tree, hsearches, hfound, hnone⟩ := exists_tree_of_sigmaExposed
      (fun c hc => Bool.eq_false_iff.2 fun h => hends ⟨c, hc, h⟩) (not_not.1 hexposed)
    have hadds := (hall { Session.default with tree, cwd := [] } [] [text, "f"] hsearches).2.2
    rw [List.nil_append, List.nil_append, hnone] at hadds
    exact hfound (List.eq_nil_of_sublist_nil hadds)
  · intro hsafe session front back hsearches
    rw [GrepRequest.ofArgs_ignoring]
    refine ⟨grep_eq_found hsearches, ?_, found_sublist_ignoring hsearches hsafe⟩
    have hignoring := hsearches.ignoring
    rw [← GrepRequest.ofArgs_ignoring] at hignoring ⊢
    exact grep_eq_found hignoring

/-- A file of the one line `ΑΣΑ`, in which the word `ΑΣ` is found, and not found without regard to letter
case, as its last letter is lowered as one that ends a word. -/
theorem sigma_inside_word_is_lost :
    grep (oneLine ['Α', 'Σ', 'Α']) [] ["ΑΣ", "f"] = .ok "/f:ΑΣΑ" ∧
      grep (oneLine ['Α', 'Σ', 'Α']) [] ["-i", "ΑΣ", "f"] = .ok "" := by
  decide +kernel

end Shellbox.Shell
