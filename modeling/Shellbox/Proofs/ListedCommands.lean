import Shellbox.Proofs.CommandListing
import Shellbox.Proofs.PackageAccounts
/-!
# Calling commands by the names under which they are listed

The listing of a command table shows what its names find: each command that some name finds, and
that name is its own (`CommandTable.Reached.mem_listing_iff`).

A line calls what its first word finds in lower case (`Session.called?`). For a command that is
listed under a single word the line may be the word itself, and then the command is called exactly
if the word is the same in lower case (`Session.called?_listed_iff`). The names of the commands that
are always there are; the names of other commands are what the packages of the start say
(`Session.name_of_listed`, `Session.exists_listed_of_install`), so that it depends on these packages
alone whether every listed command can be called (`Session.callable_iff_lower`).
-/

namespace Shellbox

namespace Shell

/-! ### The listing -/

namespace CommandTable.Reached

variable {table : CommandTable} {name : String} {command : Command}

/-- A command is found under its own name. -/
theorem name_of_find? (h : table.Reached) (hfind : table.find? name = some command) :
    command.name = name := h.built.name_of_find? hfind

/-- **The listing shows exactly the commands that their names find.** -/
theorem mem_listing_iff (h : table.Reached) :
    command ∈ table.listing ↔ table.find? command.name = some command := h.built.mem_listing_iff

end CommandTable.Reached

/-! ### What a line calls -/

/-- Whether a text is a single word: it is not empty and holds no blank. -/
def IsWord (text : String) : Prop := text ≠ "" ∧ ∀ c ∈ text.toList, Text.isBlank c = false

instance (text : String) : Decidable (IsWord text) :=
  @instDecidableAnd _ _ _ (List.decidableBAll _ text.toList)

end Shell

namespace Text

/-- A text without blanks goes on with the word being read. -/
theorem wordsFrom_append_of_not_blank {text : List Char} (h : ∀ c ∈ text, isBlank c = false)
    (word rest : List Char) : wordsFrom word (text ++ rest) = wordsFrom (text.reverse ++ word) rest := by
  induction text generalizing word with
  | nil => rfl
  | cons c text ih =>
    obtain ⟨hc, htext⟩ := List.forall_mem_cons.1 h
    have hword : (c :: text).reverse ++ word = text.reverse ++ c :: word := by simp
    rw [List.cons_append, wordsFrom, hc, if_neg Bool.false_ne_true, ih htext, hword]

theorem wordsFrom_of_not_blank {text : List Char} (h : ∀ c ∈ text, isBlank c = false)
    {word : List Char} (hne : word.reverse ++ text ≠ []) :
    wordsFrom word text = [word.reverse ++ text] := by
  have hreverse : (text.reverse ++ word).reverse = word.reverse ++ text := by simp
  have hword : text.reverse ++ word ≠ [] := fun hnil => hne (by rw [← hreverse, hnil]; rfl)
  have hend := wordsFrom_append_of_not_blank h word []
  rwa [List.append_nil, wordsFrom, List.isEmpty_eq_false_iff.2 hword, if_neg Bool.false_ne_true,
    hreverse] at hend

/-- Words with a blank between neighbours are read again. -/
theorem words_joined {given : List (List Char)}
    (h : ∀ word ∈ given, word ≠ [] ∧ ∀ c ∈ word, isBlank c = false) :
    words (joined [' '] given) = given := by
  induction given with
  | nil => rfl
  | cons first others ih =>
    obtain ⟨⟨hne, hfirst⟩, hothers⟩ := List.forall_mem_cons.1 h
    cases others with
    | nil => exact wordsFrom_of_not_blank hfirst hne
    | cons second more =>
      have hempty : first.reverse.isEmpty = false := by simpa using hne
      rw [joined_cons_cons, words, wordsFrom_append_of_not_blank hfirst, List.append_nil,
        List.singleton_append, wordsFrom, if_pos (by decide), hempty, if_neg Bool.false_ne_true,
        List.reverse_reverse]
      exact congrArg (first :: ·) (ih hothers)

end Text

namespace Shell

theorem Builtin.lowerString_name (builtin : Builtin) :
    Text.lowerString builtin.name = builtin.name := by
  cases builtin <;> decide +kernel

theorem lineWords_of_isWord {name : String} (h : IsWord name) : lineWords name = [name] := by
  have hne : name.toList ≠ [] := fun hnil => h.1 (String.toList_inj.1 hnil)
  have hwords : Text.words name.toList = [name.toList] := Text.wordsFrom_of_not_blank h.2 hne
  rw [lineWords, hwords, List.map_singleton, String.ofList_toList]

/-- The words of a line that was put together from words. -/
theorem lineWords_joinWith {words : List String} (h : ∀ word ∈ words, IsWord word) :
    lineWords (Text.joinWith " " words) = words := by
  have hletters : ∀ letters ∈ words.map String.toList,
      letters ≠ [] ∧ ∀ c ∈ letters, Text.isBlank c = false :=
    List.forall_mem_map.2 fun word hword =>
      ⟨fun hnil => (h word hword).1 (String.toList_inj.1 hnil), (h word hword).2⟩
  have hwords := Text.words_joined hletters
  rw [lineWords, Text.toList_joinWith, show " ".toList = [' '] from rfl, hwords, List.map_map]
  exact (List.map_congr_left fun word _ => String.ofList_toList).trans (List.map_id words)

theorem commandName_of_isWord {name : String} (h : IsWord name) :
    commandName name = some (Text.lowerString name) := by
  rw [commandName, lineWords_of_isWord h]
  rfl

namespace Session

variable {session : Session} {command : Command} {name : String}

/-- The command that a line calls, if its first word in lower case finds one. -/
def called? (session : Session) (line : String) : Option Command :=
  (commandName line).bind session.table.find?

/-- What a line with a single word answers and does is settled by the command that it calls. -/
theorem run_of_isWord (h : IsWord name) (now : Nat) :
    session.run now name =
      match session.called? name with
      | none =>
        let lines := [session.shown name, notFound (Text.lowerString name)]
        (lines, session.record lines)
      | some command =>
        let ended := command.call now (Text.lowerString name) [] session
        let lines := session.shown name :: if ended.1 = "" then [] else [ended.1]
        if command.recorded then (lines, ended.2.record lines) else ([], ended.2) := by
  have hname := commandName_of_isWord h
  rw [called?, hname, Option.bind_some]
  cases hfind : session.table.find? (Text.lowerString name) with
  | none =>
    have hmissing : ∀ word ∈ commandName name, session.table.find? word = none := by
      rw [hname]
      rintro word hword
      rwa [← Option.some.inj hword]
    rw [run_of_missing hmissing, complaint, hname]
    rfl
  | some command =>
    rw [run_of_find? hname hfind, lineWords_of_isWord h]
    rfl

/-- A line whose first word is the name of a built-in command calls it with the other words. -/
theorem run_of_lineWords {line : String} {builtin : Builtin} {args : List String}
    (h : session.table.Reached) (hwords : lineWords line = builtin.name :: args)
    (hclear : builtin ≠ .clear) (now : Nat) :
    session.run now line =
      let ended := builtin.command.call now builtin.name args session
      let lines := session.shown line :: if ended.1 = "" then [] else [ended.1]
      (lines, ended.2.record lines) := by
  have hname : commandName line = some builtin.name := by
    rw [commandName, hwords, List.head?_cons, Option.map_some, builtin.lowerString_name]
  rw [run_of_builtin h now hname, hwords, List.tail_cons]
  simp only [if_neg hclear]

/-- A command that is listed under a single word is called by it exactly if the word is the same in
lower case. -/
theorem called?_eq_some_iff (h : session.table.Reached) (hlisted : command ∈ session.table.listing)
    (hword : IsWord command.name) :
    session.called? command.name = some command ↔
      Text.lowerString command.name = command.name := by
  rw [called?, commandName_of_isWord hword, Option.bind_some]
  constructor
  · exact fun hfind => (h.name_of_find? hfind).symm
  · intro hlower
    rw [hlower]
    exact h.mem_listing_iff.1 hlisted

/-- A single word calls nothing exactly if no command is listed under the word in lower case. -/
theorem called?_eq_none_iff (h : session.table.Reached) (hword : IsWord name) :
    session.called? name = none ↔
      ∀ other ∈ session.table.listing, other.name ≠ Text.lowerString name := by
  rw [called?, commandName_of_isWord hword, Option.bind_some]
  constructor
  · intro hnone other hother hname
    rw [h.mem_listing_iff, hname, hnone] at hother
    cases hother
  · intro hothers
    refine Option.eq_none_iff_forall_ne_some.2 fun other hfind => ?_
    have hname := h.name_of_find? hfind
    exact hothers other (h.mem_listing_iff.2 (by rw [hname]; exact hfind)) hname

section Start

variable (tree : FileTree) (packages : List Package) (user host : String) (clock : Moment)

/-- **Which listed commands can be called by their names.** After any lines and any calls that
install or uninstall packages, a command that is listed under a single word is called by this word
exactly if the word is the same in lower case. Otherwise the line calls the command that is listed
under the word in lower case, and if there is none it is answered that there is no such command. -/
theorem called?_listed_iff (calls : List Call) :
    let session := (start tree (.ofPackages packages) user host clock).afterCalls calls
    ∀ command ∈ session.table.listing, IsWord command.name →
      (session.called? command.name = some command ↔
        Text.lowerString command.name = command.name) ∧
      (session.called? command.name = none ↔
        ∀ other ∈ session.table.listing, other.name ≠ Text.lowerString command.name) ∧
      ∀ now, session.run now command.name =
        match session.called? command.name with
        | none =>
          let lines := [session.shown command.name, notFound (Text.lowerString command.name)]
          (lines, session.record lines)
        | some called =>
          let ended := called.call now (Text.lowerString command.name) [] session
          let lines := session.shown command.name :: if ended.1 = "" then [] else [ended.1]
          if called.recorded then (lines, ended.2.record lines) else ([], ended.2) := by
  intro session command hlisted hword
  have h : Coherent (.ofPackages packages) session.catalog session.table :=
    coherent_afterCalls (coherent_start tree packages user host clock) calls
  exact ⟨called?_eq_some_iff h.reached hlisted hword, called?_eq_none_iff h.reached hword,
    run_of_isWord hword⟩

/-- A command with a capital in its name is listed, and there is no such command. -/
theorem capital_name_is_not_called :
    let package : Package := ⟨"tools", "1", true, ["Make"]⟩
    let session := (start .empty (.ofPackages [package]) "user" "host"
      ⟨2024, 1, 2, 3, 4, 5⟩).afterCalls []
    let command : Command := .ofPackage package "Make"
    command ∈ session.table.listing ∧ IsWord command.name ∧
      session.called? command.name = none ∧
        (session.run 1 command.name).1 = ["~ $ Make", notFound "make"] := by
  decide +kernel

/-- Of two commands whose names differ in a capital, the other one is called by its name. -/
theorem lower_name_is_called :
    let packages : List Package := [⟨"tools", "1", false, ["Make", "make"]⟩]
    let session := (start .empty (.ofPackages packages) "user" "host"
      ⟨2024, 1, 2, 3, 4, 5⟩).afterCalls [.line 1 "brew install tools"]
    let command : Command := .ofPackage ⟨"tools", "1", true, ["Make", "make"]⟩ "make"
    command ∈ session.table.listing ∧ IsWord command.name ∧
      session.called? command.name = some command := by
  intro packages session command
  have hlisted : command ∈ session.table.listing := by decide +kernel
  have hword : IsWord command.name := by decide
  have hcalled := called?_listed_iff .empty packages "user" "host" ⟨2024, 1, 2, 3, 4, 5⟩
    [.line 1 "brew install tools"] command hlisted hword
  exact ⟨hlisted, hword, hcalled.1.2 (by decide +kernel)⟩

/-! ### All listed commands -/

/-- Installing a package lists a command under each of its names. -/
theorem exists_listed_of_install {package : Package}
    (hpackage : package ∈ Catalog.ofPackages packages) (hname : name ∈ package.commands) :
    let session := (start tree (.ofPackages packages) user host clock).afterCalls
      [.install package.name]
    ∃ command ∈ session.table.listing, command.name = name := by
  intro session
  let installed : Package := { package with installed := true }
  have hfind := Catalog.find?_of_mem (Catalog.nodup_keys_ofPackages packages) hpackage
  have htable : session.table =
      (start tree (.ofPackages packages) user host clock).table.register installed := by
    simp only [session]
    rw [afterCalls_cons, respond_install hfind]
    rfl
  have h : session.table.Reached := by
    rw [htable]
    exact (table_start_reached _ _ _ _ _).register installed
  by_cases hbuiltin : ∃ builtin : Builtin, builtin.name = name
  · obtain ⟨builtin, rfl⟩ := hbuiltin
    exact ⟨builtin.command, h.mem_listing_iff.2 (h.find?_builtin builtin), rfl⟩
  · refine ⟨.ofPackage installed name, h.mem_listing_iff.2 ?_, rfl⟩
    refine (h.find?_of_ne (not_exists.1 hbuiltin)).trans ?_
    rw [htable, CommandTable.lookup_register, if_pos hname]

/-- A listed command is one that is always there, or its name is one that a package of the start
gives to a command. -/
theorem name_of_listed (calls : List Call) :
    let session := (start tree (.ofPackages packages) user host clock).afterCalls calls
    ∀ command ∈ session.table.listing,
      (∃ builtin : Builtin, builtin.name = command.name) ∨
        ∃ package ∈ Catalog.ofPackages packages, command.name ∈ package.commands := by
  intro session command hlisted
  have h : Coherent (.ofPackages packages) session.catalog session.table :=
    coherent_afterCalls (coherent_start tree packages user host clock) calls
  by_cases hbuiltin : ∃ builtin : Builtin, builtin.name = command.name
  · exact Or.inl hbuiltin
  · have hfind := h.reached.mem_listing_iff.1 hlisted
    rw [h.reached.find?_of_ne (not_exists.1 hbuiltin),
      Keyed.lookup_eq_some_iff h.reached.nodup_keys] at hfind
    obtain ⟨package, -, hheld, -, hname⟩ := h.backed _ hfind
    -- the package is one of the start, but for whether it is installed
    have hcontents : package.contents ∈ (Catalog.ofPackages packages).map Package.contents := by
      rw [← h.contents]
      exact List.mem_map_of_mem (Catalog.mem_of_find? hheld)
    obtain ⟨origin, horigin, heq⟩ := List.mem_map.1 hcontents
    simp only [Package.contents, Prod.mk.injEq] at heq
    exact Or.inr ⟨origin, horigin, by rw [heq.2.2]; exact hname⟩

/-- **With which packages every listed command can be called by its name.** It is so, whatever the
calls, exactly if those names of commands of the packages that are single words are in lower case,
whether the packages are installed at the start or not. -/
theorem callable_iff_lower :
    (∀ calls,
      let session := (start tree (.ofPackages packages) user host clock).afterCalls calls
      ∀ command ∈ session.table.listing, IsWord command.name →
        session.called? command.name = some command) ↔
      ∀ package ∈ Catalog.ofPackages packages, ∀ name ∈ package.commands, IsWord name →
        Text.lowerString name = name := by
  have hreached : ∀ calls,
      ((start tree (.ofPackages packages) user host clock).afterCalls calls).table.Reached :=
    fun calls => (coherent_afterCalls (coherent_start tree packages user host clock) calls).reached
  constructor
  · intro hcallable package hpackage name hname hword
    obtain ⟨command, hlisted, rfl⟩ :=
      exists_listed_of_install tree packages user host clock hpackage hname
    exact (called?_eq_some_iff (hreached _) hlisted hword).1 (hcallable _ command hlisted hword)
  · intro hlower calls session command hlisted hword
    refine (called?_eq_some_iff (hreached calls) hlisted hword).2 ?_
    rcases name_of_listed tree packages user host clock calls command hlisted with
      ⟨builtin, hname⟩ | ⟨package, hpackage, hname⟩
    · rw [← hname]
      exact builtin.lowerString_name
    · exact hlower package hpackage command.name hname hword

end Start

end Session
end Shell
end Shellbox
