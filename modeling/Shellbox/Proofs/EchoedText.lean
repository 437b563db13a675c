import Shellbox.Proofs.BatchOrder
import Shellbox.Proofs.JoinedText
import Shellbox.Proofs.ListedCommands
import Shellbox.Proofs.TouchReports
/-!
# Text that is echoed to a file

A line `echo`, some words, `>` and a file writes the words with blanks between them to the file. The words
of the line are these again (`Shell.lineWords_joinWith`), and as no word is `>`, the text is what stands
before the one in the line (`Shell.echo_to_file`).

The file can be written exactly where it could be touched, and the answer says so
(`Shell.echo_to_file_succeeds_iff`): whatever else is answered starts with the name of the command. Then
the file holds the text, and every other path holds what it held (`FileTree.Touchable.content?_after_write`).
If the file cannot be written, then the tree is as it was, since an edit that fails leaves no trace.
`Session.echo_then_cat` says this of a session, in which the text is read again by `cat`.
-/

namespace Shellbox

namespace FileTree

variable {before after : FileTree} {path : Path}

/-- Where two trees hold the same, a file reads the same. -/
theorem fileText_congr (h : after.content? path = before.content? path) (text : String) :
    after.fileText path = .ok text ↔ before.fileText path = .ok text := by
  rw [fileText_eq_ok_iff, fileText_eq_ok_iff, h]

/-- Where two trees hold the same, there is something in both or in none. -/
theorem holds_congr (h : after.content? path = before.content? path) :
    after.holds path = before.holds path := by
  rw [Bool.eq_iff_iff, holds_iff_content?, holds_iff_content?, h]

end FileTree

namespace Shell

variable {now : Nat} {cwd : Path} {words : List String} {file text : String} {tree : FileTree}

/-- What `cat` prints for the text of a file. -/
theorem cat_of_fileText (h : tree.fileText (Path.readFrom cwd file) = .ok text) :
    cat tree cwd [file] = .ok (if text = "" then "(empty file)" else text) := by
  simp [cat, catEach, h, Text.joinWith, Text.joined]

/-! ### Writing the words -/

/-- Words before a `>` are written to the file behind it. -/
theorem echo_to_file (h : ∀ word ∈ words, word ≠ ">") :
    echo now cwd (words ++ [">", file]) = orSay (echoWords file)
      ((fun _ => "Wrote to file: " ++ file) <$>
        Edit.writeFile now (Path.readFrom cwd file) (Text.joinWith " " words) false) := by
  have hall : ∀ word ∈ words, (word != ">") = true := fun word hword => bne_iff_ne.2 (h word hword)
  rw [echo, List.dropWhile_append_of_pos hall, List.takeWhile_append_of_pos hall]
  simp [← bind_pure_comp]

/-- What `echo` says about a failure starts with its name. -/
theorem echo_failure_ne_wrote (cause : Fault) :
    putOut "echo" (match echoWords file cause with
      | some line => .ok line
      | none => .error cause) ≠ "Wrote to file: " ++ file := by
  intro heq
  have hfirst := congrArg (fun output => output.toList.head?) heq
  cases cause <;> simp [echoWords, putOut, Failure.output] at hfirst

/-- **The answer tells whether the words were written**, which they are where a file can be touched. -/
theorem echo_to_file_succeeds_iff (h : ∀ word ∈ words, word ≠ ">") :
    putOut "echo" ((echo now cwd (words ++ [">", file])).outcome tree) = "Wrote to file: " ++ file ↔
      tree.Touchable (Path.readFrom cwd file) := by
  rw [← @FileTree.ensureFile_succeeds_iff now, echo_to_file h, outcome_orSay, Edit.outcome_map,
    Edit.outcome_writeFile]
  cases (Edit.ensureFile now false (Path.readFrom cwd file)).outcome tree with
  | ok done => simp [Except.map, putOut]
  | error cause => exact iff_of_false (echo_failure_ne_wrote cause) (by simp)

/-- Writing words to a file is writing their text there, or failing to. -/
theorem after_echo_to_file (h : ∀ word ∈ words, word ≠ ">") :
    (echo now cwd (words ++ [">", file])).after tree =
      (Edit.writeFile now (Path.readFrom cwd file) (Text.joinWith " " words) false).after tree := by
  rw [echo_to_file h, after_orSay, Edit.after_map]

/-- A line is answered with one line of output exactly if this is what its command puts out. -/
theorem shown_output_eq_iff {shown output said : String} (h : said ≠ "") :
    (shown :: if output = "" then [] else [output]) = [shown, said] ↔ output = said := by
  by_cases hempty : output = ""
  · simp [hempty, h.symm]
  · simp [hempty]

namespace Session

variable {session : Session}

/-- The line that echoes words to a file. -/
def echoLine (words : List String) (file : String) : String :=
  Text.joinWith " " ("echo" :: (words ++ [">", file]))

/-- What a line that echoes words to a file answers and does. -/
theorem run_echoLine (htable : session.table.Reached) (hwords : ∀ word ∈ words, IsWord word)
    (hfile : IsWord file) (now : Nat) :
    session.run now (echoLine words file) =
      let edit := echo now session.cwd (words ++ [">", file])
      let output := putOut "echo" (edit.outcome session.tree)
      let lines := session.shown (echoLine words file) :: if output = "" then [] else [output]
      (lines, { session with tree := edit.after session.tree }.record lines) := by
  have hline : lineWords (echoLine words file) = Builtin.echo.name :: (words ++ [">", file]) := by
    refine lineWords_joinWith (List.forall_mem_cons.2 ⟨by decide, fun word hword => ?_⟩)
    rcases List.mem_append.1 hword with hword | hword
    · exact hwords word hword
    · rcases List.mem_pair.1 hword with rfl | rfl
      · decide
      · exact hfile
  rw [run_of_lineWords htable hline (by decide), Command.call_of_edit rfl]
  rfl

/-- What `cat` answers for a file that is there. -/
theorem run_cat (htable : session.table.Reached) (hfile : IsWord file)
    (hread : session.tree.fileText (session.locate file) = .ok text) (now : Nat) :
    (session.run now ("cat " ++ file)).1 =
      [session.shown ("cat " ++ file), if text = "" then "(empty file)" else text] := by
  have hline : lineWords ("cat " ++ file) = Builtin.cat.name :: [file] := by
    have hcat : lineWords ("cat " ++ file) = Builtin.cat.name :: lineWords file := by
      simp only [lineWords, String.toList_append]
      rfl
    rw [hcat, lineWords_of_isWord hfile]
  have hsaid : (if text = "" then "(empty file)" else text) ≠ "" := by
    split_ifs with hempty
    · decide
    · exact hempty
  rw [run_of_lineWords htable hline (by decide), Command.call_of_look rfl, cat_of_fileText hread]
  exact (shown_output_eq_iff hsaid).2 rfl

/-- **What is echoed to a file is what `cat` prints.** In any session, let a line echo some words, none of
which is `>`, to a file. It answers that it wrote to the file exactly if the file can be written. Then
`cat`, called next, prints the words with blanks between them, or that the file is empty if there are no
words; every other file reads as before, and there is something at any other path if there was. If
anything else is answered, then the tree is as it was, with all its stamps. -/
theorem echo_then_cat (htable : session.table.Reached)
    (hwords : ∀ word ∈ words, IsWord word ∧ word ≠ ">") (hfile : IsWord file) (now later : Nat) :
    let place := session.locate file
    let wrote := [session.shown (echoLine words file), "Wrote to file: " ++ file]
    let answer := (session.run now (echoLine words file)).1
    let after := (session.run now (echoLine words file)).2
    (answer = wrote ↔ session.tree.Touchable place) ∧
    (answer = wrote →
      (after.run later ("cat " ++ file)).1 =
          [after.shown ("cat " ++ file),
            if words = [] then "(empty file)" else Text.joinWith " " words] ∧
        ∀ other, other ≠ place →
          (∀ text, after.tree.fileText other = .ok text ↔ session.tree.fileText other = .ok text) ∧
            after.tree.holds other = session.tree.holds other) ∧
    (answer ≠ wrote → after.tree = session.tree) := by
  have hplain : ∀ word ∈ words, word ≠ ">" := fun word hword => (hwords word hword).2
  have hword : ∀ word ∈ words, IsWord word := fun word hword => (hwords word hword).1
  have hsaid : "Wrote to file: " ++ file ≠ "" := by simp
  have hempty : Text.joinWith " " words = "" ↔ words = [] :=
    Text.joinWith_eq_empty_iff fun word h => (hword word h).1
  rw [run_echoLine htable hword hfile]
  dsimp only
  rw [ne_eq, shown_output_eq_iff hsaid, echo_to_file_succeeds_iff hplain, after_echo_to_file hplain]
  refine ⟨Iff.rfl, fun htouch => ?_, fun htouch => ?_⟩
  · have hheld := @FileTree.Touchable.content?_after_write now _ _ htouch (Text.joinWith " " words)
    refine ⟨?_, fun other hother => ?_⟩
    · simp only [← hempty]
      refine run_cat ?_ hfile ?_ later
      · exact htable
      · exact FileTree.fileText_eq_ok_iff.2 ((hheld _).trans (if_pos rfl))
    · have hsame := (hheld other).trans (if_neg hother)
      exact ⟨FileTree.fileText_congr hsame, FileTree.holds_congr hsame⟩
  · exact FileTree.after_write_of_not_touchable htouch _

/-- A file with a roundabout path is written and read, and nothing is written where no directory is. -/
theorem note_is_read_back :
    let requests : List Request := [⟨1, "/", .mkdir "docs" false false⟩]
    let session := start (FileTree.empty.afterRequests requests) Catalog.default "user" "host"
      ⟨2024, 1, 2, 3, 4, 5⟩
    let file := "docs/../docs//./note"
    let after := (session.run 2 (echoLine ["two", "words"] file)).2
    (after.run 3 ("cat " ++ file)).1 = [after.shown ("cat " ++ file), "two words"] ∧
      after.tree.holds ["docs"] = session.tree.holds ["docs"] ∧
      (session.run 2 (echoLine [] "missing/note")).2.tree = session.tree := by
  intro requests session file after
  have htable : session.table.Reached := table_start_reached _ _ _ _ _
  have hwords : ∀ word ∈ ["two", "words"], IsWord word ∧ word ≠ ">" := by decide
  have hnone : ∀ word ∈ ([] : List String), IsWord word ∧ word ≠ ">" := by decide
  obtain ⟨hwrote, hread, -⟩ := echo_then_cat htable hwords (by decide : IsWord file) 2 3
  obtain ⟨hmissing, -, hsame⟩ :=
    echo_then_cat htable hnone (by decide : IsWord "missing/note") 2 3
  obtain ⟨hcat, hothers⟩ := hread (hwrote.2 (by decide +kernel))
  exact ⟨hcat, (hothers ["docs"] (by decide +kernel)).2,
    hsame fun h => absurd (hmissing.1 h) (by decide +kernel)⟩

end Session
end Shell
end Shellbox
