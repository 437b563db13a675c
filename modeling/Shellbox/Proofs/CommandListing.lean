import Shellbox.Proofs.CommandTables
import Shellbox.Proofs.JoinedText
import Shellbox.Shell.Dispatch
/-!
# The listing of a command table

Commands are added to a table one by one, packages are registered with all of theirs and taken out
again, in any order (`CommandTable.Built`). Which of two commands of one name comes first is settled
twice. A look-up asks the fixed part of the table before the part of the packages, and the listing
puts the fixed commands in the place of those of packages. The two agree
(`CommandTable.Built.lookup_merged`), since in each part the commands stand under their own names, and
in the fixed part each name stands once.

So the listing holds exactly the commands that names find, each under its own name
(`CommandTable.Built.mem_listing_iff`), and as its names are sorted names it is in strict order
(`CommandTable.Built.pairwise_listing`). The help text goes through the listing once for each tier. A
command has one tier, so that the sections of the text hold each command once
(`CommandTable.Built.helpPage`).
-/

namespace Shellbox

namespace Text

variable {names : List String}

/-- Putting a name in its place keeps the order of the names. -/
theorem pairwise_insertName (h : names.Pairwise (· < ·)) (name : String) :
    (insertName name names).Pairwise (· < ·) := by
  induction names with
  | nil => exact List.pairwise_singleton _ _
  | cons first rest ih =>
    obtain ⟨hfirst, hrest⟩ := List.pairwise_cons.1 h
    rw [insertName]
    split_ifs with hbefore hsame
    · refine List.pairwise_cons.2 ⟨List.forall_mem_cons.2 ⟨hbefore, fun other hother => ?_⟩, h⟩
      exact String.lt_trans hbefore (hfirst other hother)
    · exact h
    · refine List.pairwise_cons.2 ⟨fun other hother => ?_, ih hrest⟩
      rcases mem_insertName.1 hother with rfl | hother
      · by_contra hafter
        exact hsame (String.le_antisymm (String.not_lt.1 hafter) (String.not_lt.1 hbefore))
      · exact hfirst other hother

/-- Sorted names are in strictly increasing order. -/
theorem pairwise_sortNames (names : List String) : (sortNames names).Pairwise (· < ·) := by
  induction names with
  | nil => exact List.Pairwise.nil
  | cons name rest ih => exact pairwise_insertName ih name

end Text

namespace Keyed

variable {K V : Type} [DecidableEq K] {pairs : List (K × V)} {k : K} {v : V}

/-- When no key of the first list is there twice, its pairs come before those of the second. -/
theorem lookup_putAll (h : (keys pairs).Nodup) (into : List (K × V)) (k : K) :
    (putAll pairs into).lookup k = (pairs.lookup k).or (into.lookup k) := by
  induction pairs generalizing into with
  | nil => rfl
  | cons first rest ih =>
    obtain ⟨key, value⟩ := first
    obtain ⟨hnew, hrest⟩ := List.nodup_cons.1 h
    have hstep : putAll ((key, value) :: rest) into = putAll rest (put key value into) := rfl
    rw [hstep, ih hrest, lookup_put, List.lookup_cons]
    by_cases hk : k = key
    · subst hk
      have hnone : rest.lookup k = none := by
        refine Option.eq_none_iff_forall_ne_some.2 fun found hfound => hnew ?_
        exact List.mem_map.2 ⟨_, mem_of_lookup hfound, rfl⟩
      simp [hnone]
    · simp [beq_eq_false_iff_ne.2 hk, hk]

end Keyed

namespace Shell
namespace CommandTable

/-! ### Tables built in any way -/

/-- The tables that come about from the one without any command. -/
inductive Built : CommandTable → Prop
  /-- There is no command yet. -/
  | empty : Built empty
  /-- A command is added, of whatever tier and under whatever name. -/
  | add (command : Command) {table : CommandTable} : Built table → Built (table.add command)
  /-- The commands of a package are added. -/
  | register (package : Package) {table : CommandTable} :
      Built table → Built (table.register package)
  /-- The commands of a package are taken out. -/
  | unregister (name : String) {table : CommandTable} :
      Built table → Built (table.unregister name)

/-- Where a command is added: among the fixed ones or among those of packages. -/
theorem add_cases (command : Command) (table : CommandTable) :
    table.add command = { table with fixed := Keyed.put command.name command table.fixed } ∨
      table.add command = { table with provided := Keyed.put command.name command table.provided } := by
  unfold add
  cases command.tier with
  | builtin => exact Or.inl rfl
  | system => exact Or.inl rfl
  | package => exact Or.inr rfl

/-- The tables of sessions are built in this way. -/
theorem Reached.built {table : CommandTable} (h : table.Reached) : table.Built := by
  induction h with
  | builtins =>
    have hfold : ∀ (commands : List Builtin) {table : CommandTable}, table.Built →
        (commands.foldl (fun table builtin => table.add builtin.command) table).Built := by
      intro commands
      induction commands with
      | nil => exact fun h => h
      | cons builtin rest ih => exact fun h => ih (h.add builtin.command)
    exact hfold Builtin.all .empty
  | register package _ ih => exact ih.register package
  | unregister name _ ih => exact ih.unregister name

namespace Built

variable {table : CommandTable} {name : String} {command : Command}

/-- Every command stands under its own name. -/
theorem name_eq_key (h : table.Built) :
    (∀ entry ∈ table.fixed, entry.2.name = entry.1) ∧
      ∀ entry ∈ table.provided, entry.2.name = entry.1 := by
  induction h with
  | empty => exact ⟨fun _ h => absurd h List.not_mem_nil, fun _ h => absurd h List.not_mem_nil⟩
  | @add command table _ ih =>
    have hput : ∀ {pairs : List (String × Command)}, (∀ entry ∈ pairs, entry.2.name = entry.1) →
        ∀ entry ∈ Keyed.put command.name command pairs, entry.2.name = entry.1 := by
      intro pairs hpairs entry hentry
      rcases Keyed.mem_of_mem_put hentry with rfl | hentry
      · rfl
      · exact hpairs entry hentry
    rcases add_cases command table with hadd | hadd
    · rw [hadd]
      exact ⟨hput ih.1, ih.2⟩
    · rw [hadd]
      exact ⟨ih.1, hput ih.2⟩
  | @register package table _ ih =>
    refine ⟨by rw [fixed_register]; exact ih.1, fun entry hentry => ?_⟩
    rcases mem_provided_register hentry with ⟨-, hcommand⟩ | hentry
    · rw [hcommand]
      rfl
    · exact ih.2 entry hentry
  | unregister name _ ih =>
    exact ⟨ih.1, fun entry hentry => ih.2 entry (mem_provided_unregister.1 hentry).1⟩

/-- Among the fixed commands no name stands twice. -/
theorem nodup_keys_fixed (h : table.Built) : (Keyed.keys table.fixed).Nodup := by
  induction h with
  | empty => exact List.nodup_nil
  | @add command table _ ih =>
    rcases add_cases command table with hadd | hadd
    · rw [hadd]
      exact Keyed.nodup_keys_put ih _ _
    · rw [hadd]
      exact ih
  | register package _ ih => rwa [fixed_register]
  | unregister name _ ih => exact ih

/-- A command is found under its own name. -/
theorem name_of_find? (h : table.Built) (hfind : table.find? name = some command) :
    command.name = name := by
  rw [find?] at hfind
  split at hfind
  · next found hfixed =>
    cases hfind
    exact h.name_eq_key.1 _ (Keyed.mem_of_lookup hfixed)
  · exact h.name_eq_key.2 _ (Keyed.mem_of_lookup hfind)

/-- The listing looks names up as the table does. -/
theorem lookup_merged (h : table.Built) (name : String) :
    (Keyed.putAll table.fixed table.provided).lookup name = table.find? name := by
  rw [Keyed.lookup_putAll h.nodup_keys_fixed, find?]
  cases table.fixed.lookup name <;> rfl

/-- **The listing shows exactly the commands that their names find.** -/
theorem mem_listing_iff (h : table.Built) :
    command ∈ table.listing ↔ table.find? command.name = some command := by
  simp only [listing, List.mem_filterMap, Text.mem_sortNames, h.lookup_merged]
  constructor
  · rintro ⟨name, -, hfind⟩
    rwa [h.name_of_find? hfind]
  · intro hfind
    refine ⟨command.name, ?_, hfind⟩
    rw [← h.lookup_merged] at hfind
    exact List.mem_map.2 ⟨_, Keyed.mem_of_lookup hfind, rfl⟩

/-- The names of the listing are the sorted names of the table. -/
theorem names_listing (h : table.Built) :
    table.listing.map (·.name) =
      Text.sortNames (Keyed.keys (Keyed.putAll table.fixed table.provided)) := by
  have hnames : ∀ name ∈ Text.sortNames (Keyed.keys (Keyed.putAll table.fixed table.provided)),
      ((Keyed.putAll table.fixed table.provided).lookup name).map (·.name) = some name := by
    intro name hname
    obtain ⟨command, hcommand⟩ := Keyed.exists_lookup_of_mem_keys (Text.mem_sortNames.1 hname)
    rw [hcommand, Option.map_some, h.name_of_find? (h.lookup_merged name ▸ hcommand)]
  rw [listing, List.map_filterMap, List.filterMap_congr hnames, List.filterMap_some]

/-- The listing is in strictly increasing order of names. -/
theorem pairwise_listing (h : table.Built) :
    table.listing.Pairwise fun first second => first.name < second.name := by
  rw [← List.pairwise_map (f := Command.name), h.names_listing]
  exact Text.pairwise_sortNames _

/-- No command is listed twice. -/
theorem nodup_listing (h : table.Built) : table.listing.Nodup := by
  refine h.pairwise_listing.imp fun hlt heq => ?_
  rw [heq] at hlt
  exact String.lt_irrefl _ hlt

end Built

end CommandTable

/-! ### The help text -/

/-- A section of the help text: the tier that it is for with its title, and the commands in it. -/
structure HelpSection where
  heading : Tier × String
  members : List Command
  deriving DecidableEq, Repr

/-- The lines of a section: the title, and one entry for each command. -/
def HelpSection.lines (section_ : HelpSection) : List String :=
  section_.heading.2 :: section_.members.map helpLine

/-- The lines of a text that start with two blanks, which are the entries of a help text. -/
def helpEntries (text : String) : List String :=
  ((Text.pieces '\n' text.toList).filter "  ".toList.isPrefixOf).map String.ofList

/-- How the help text for a table is laid out in sections. -/
structure CommandTable.HelpPage (table : CommandTable) (page : List HelpSection) : Prop where
  /-- The sections stand one behind the other with empty lines between them. -/
  text : help table = Text.joinWith "\n" (Text.joined [""] (page.map (·.lines)))
  /-- The headings come in their fixed order, each once at most. -/
  headings : (page.map (·.heading)).Sublist helpSections
  /-- A section holds a command. -/
  inhabited : ∀ section_ ∈ page, section_.members ≠ []
  /-- A section holds commands of its own tier alone. -/
  own : ∀ section_ ∈ page, ∀ command ∈ section_.members, command.tier = section_.heading.1
  /-- The commands of a section come in the order of the listing. -/
  ordered : ∀ section_ ∈ page, section_.members.Sublist table.listing
  /-- All sections together hold each listed command once, and nothing else. -/
  complete : (page.flatMap (·.members)).Perm table.listing
  /-- Unless a name or a description holds a line feed, the entries of these commands are found again in
  the text, and no others. -/
  entries : (∀ command ∈ table.listing,
      '\n' ∉ command.name.toList ∧ '\n' ∉ command.description.toList) →
    helpEntries (help table) = (page.flatMap (·.members)).map helpLine

namespace HelpSection

variable {commands : List Command} {headings : List (Tier × String)} {section_ : HelpSection}

/-- The sections under some headings, but for those that show none of the commands. -/
def ofCommands (commands : List Command) (headings : List (Tier × String)) : List HelpSection :=
  (headings.map fun heading =>
    ⟨heading, commands.filter (·.tier == heading.1)⟩).filter (!·.members.isEmpty)

theorem lines_ofCommands (commands : List Command) (headings : List (Tier × String)) :
    (ofCommands commands headings).map lines =
      (headings.map (helpSection commands)).filter (!·.isEmpty) := by
  induction headings with
  | nil => rfl
  | cons heading rest ih =>
    unfold ofCommands at ih ⊢
    rw [List.map_cons, List.map_cons, List.filter_cons, List.filter_cons, helpSection]
    cases commands.filter (·.tier == heading.1) with
    | nil => exact ih
    | cons first others => exact congrArg (_ :: ·) ih

theorem headings_ofCommands_sublist (commands : List Command) (headings : List (Tier × String)) :
    ((ofCommands commands headings).map heading).Sublist headings := by
  have hall : (headings.map fun heading =>
      (⟨heading, commands.filter (·.tier == heading.1)⟩ : HelpSection)).map heading = headings := by
    rw [List.map_map]
    exact List.map_id headings
  have hsub := (List.filter_sublist (p := fun section_ : HelpSection => !section_.members.isEmpty)
    (l := headings.map fun heading =>
      ⟨heading, commands.filter (·.tier == heading.1)⟩)).map heading
  rwa [hall] at hsub

theorem mem_ofCommands_iff :
    section_ ∈ ofCommands commands headings ↔
      section_.heading ∈ headings ∧ section_.members ≠ [] ∧
        section_.members = commands.filter (·.tier == section_.heading.1) := by
  rw [ofCommands, List.mem_filter, List.mem_map, Bool.not_eq_true', List.isEmpty_eq_false_iff]
  constructor
  · rintro ⟨⟨heading, hheading, rfl⟩, hsome⟩
    exact ⟨hheading, hsome, rfl⟩
  · obtain ⟨heading, members⟩ := section_
    rintro ⟨hheading, hsome, hmembers⟩
    exact ⟨⟨heading, hheading, congrArg (mk heading) hmembers.symm⟩, hsome⟩

/-- A section holds those of the commands that are of its tier. -/
theorem mem_members_iff (h : section_ ∈ ofCommands commands headings) {command : Command} :
    command ∈ section_.members ↔ command ∈ commands ∧ command.tier = section_.heading.1 := by
  rw [(mem_ofCommands_iff.1 h).2.2, List.mem_filter, beq_iff_eq]

/-- **Each command is in one section**, if there is one heading for its tier. -/
theorem flatMap_ofCommands_perm (hnodup : commands.Nodup) (hheadings : (headings.map Prod.fst).Nodup)
    (hall : ∀ command ∈ commands, command.tier ∈ headings.map Prod.fst) :
    ((ofCommands commands headings).flatMap members).Perm commands := by
  have htiers : (ofCommands commands headings).Pairwise
      fun first second => first.heading.1 ≠ second.heading.1 := by
    have hsub := (headings_ofCommands_sublist commands headings).map Prod.fst
    rw [List.map_map] at hsub
    exact List.pairwise_map.1 (hheadings.sublist hsub)
  have hapart : ((ofCommands commands headings).flatMap members).Nodup := by
    refine List.nodup_flatMap.2 ⟨fun section_ hsection => ?_, ?_⟩
    · rw [(mem_ofCommands_iff.1 hsection).2.2]
      exact hnodup.filter _
    · -- a command in two sections would be of two tiers
      refine htiers.imp_of_mem fun hfirst hsecond hne command hcommand hother => ?_
      have htier := ((mem_members_iff hfirst).1 hcommand).2
      exact hne (htier.symm.trans ((mem_members_iff hsecond).1 hother).2)
  refine (List.perm_ext_iff_of_nodup hapart hnodup).2 fun command => ?_
  rw [List.mem_flatMap]
  constructor
  · rintro ⟨section_, hsection, hcommand⟩
    exact ((mem_members_iff hsection).1 hcommand).1
  · intro hcommand
    obtain ⟨heading, hheading, htier⟩ := List.mem_map.1 (hall command hcommand)
    have hmember : command ∈ commands.filter (·.tier == heading.1) :=
      List.mem_filter.2 ⟨hcommand, beq_iff_eq.2 htier.symm⟩
    exact ⟨⟨heading, _⟩, mem_ofCommands_iff.2 ⟨hheading, List.ne_nil_of_mem hmember, rfl⟩, hmember⟩

end HelpSection

/-- An entry is a line, if no line feed is in its name or its description. -/
theorem not_mem_helpLine {command : Command} (hname : '\n' ∉ command.name.toList)
    (hdescription : '\n' ∉ command.description.toList) : '\n' ∉ (helpLine command).toList := by
  rw [helpLine]
  split_ifs
  · simpa using hname
  · simpa using ⟨hname, hdescription⟩

/-- An entry starts with two blanks. -/
theorem isPrefixOf_helpLine (command : Command) :
    "  ".toList.isPrefixOf (helpLine command).toList = true := by
  rw [List.isPrefixOf_iff_prefix, helpLine]
  split_ifs
  · rw [String.toList_append]
    exact List.prefix_append _ _
  · rw [String.toList_append, String.toList_append, String.toList_append, List.append_assoc,
      List.append_assoc]
    exact List.prefix_append _ _

/-- Lines are found again in the text that they make up, if they start with two blanks. -/
theorem helpEntries_joinWith {lines : List String} (h : ∀ line ∈ lines, '\n' ∉ line.toList) :
    helpEntries (Text.joinWith "\n" lines) =
      lines.filter fun line => "  ".toList.isPrefixOf line.toList := by
  have hlines : ∀ line ∈ lines.map String.toList, '\n' ∉ line := List.forall_mem_map.2 h
  have hsep : "\n".toList = ['\n'] := rfl
  rcases eq_or_ne lines [] with rfl | hsome
  · rfl
  · rw [helpEntries, Text.toList_joinWith, hsep, Text.pieces_joined (by simpa using hsome) hlines,
      List.filter_map, List.map_map]
    simp [Function.comp_def]

/-- The entries of a text in sections are those of the sections one after the other. -/
theorem helpEntries_sections {page : List HelpSection}
    (hheadings : ∀ section_ ∈ page, section_.heading ∈ helpSections)
    (hlines : ∀ section_ ∈ page, ∀ command ∈ section_.members,
      '\n' ∉ command.name.toList ∧ '\n' ∉ command.description.toList) :
    helpEntries (Text.joinWith "\n" (Text.joined [""] (page.map (·.lines)))) =
      (page.flatMap (·.members)).map helpLine := by
  have htitles : ∀ heading ∈ helpSections, '\n' ∉ heading.2.toList ∧
      "  ".toList.isPrefixOf heading.2.toList = false := by decide
  have hunbroken : ∀ line ∈ Text.joined [""] (page.map (·.lines)), '\n' ∉ line.toList := by
    intro line hline
    rcases Text.mem_joined hline with hempty | ⟨lines, hlisted, hline⟩
    · rw [List.mem_singleton.1 hempty]
      exact List.not_mem_nil
    · obtain ⟨section_, hsection, rfl⟩ := List.mem_map.1 hlisted
      rcases List.mem_cons.1 hline with rfl | hentry
      · exact (htitles _ (hheadings section_ hsection)).1
      · obtain ⟨command, hcommand, rfl⟩ := List.mem_map.1 hentry
        obtain ⟨hname, hdescription⟩ := hlines section_ hsection command hcommand
        exact not_mem_helpLine hname hdescription
  have hsection : ∀ section_ ∈ page,
      (section_.lines.filter fun line => "  ".toList.isPrefixOf line.toList) =
        section_.members.map helpLine := by
    intro section_ hsection
    rw [HelpSection.lines, List.filter_cons_of_neg, List.filter_eq_self.2]
    · exact List.forall_mem_map.2 fun command _ => isPrefixOf_helpLine command
    · rw [(htitles _ (hheadings section_ hsection)).2]
      exact Bool.false_ne_true
  rw [helpEntries_joinWith hunbroken, Text.filter_joined (by decide), List.flatMap_map,
    List.flatMap_congr hsection, List.map_flatMap]

namespace CommandTable

variable {table : CommandTable}

/-- **The help text shows each listed command once**, under the heading of its tier. -/
theorem Built.helpPage (h : table.Built) :
    table.HelpPage (HelpSection.ofCommands table.listing helpSections) where
  text := by rw [help, HelpSection.lines_ofCommands]
  headings := HelpSection.headings_ofCommands_sublist _ _
  inhabited section_ hsection := (HelpSection.mem_ofCommands_iff.1 hsection).2.1
  own section_ hsection command hcommand := ((HelpSection.mem_members_iff hsection).1 hcommand).2
  ordered section_ hsection := by
    rw [(HelpSection.mem_ofCommands_iff.1 hsection).2.2]
    exact List.filter_sublist
  complete := by
    refine HelpSection.flatMap_ofCommands_perm h.nodup_listing (by decide) fun command _ => ?_
    cases command.tier <;> decide
  entries hunbroken := by
    rw [help, ← HelpSection.lines_ofCommands]
    exact helpEntries_sections (fun section_ hsection => (HelpSection.mem_ofCommands_iff.1 hsection).1)
      fun section_ hsection command hcommand =>
        hunbroken command ((HelpSection.mem_members_iff hsection).1 hcommand).1

/-- **Listing and look-up agree.** In a table that comes about by adding commands, registering packages
and taking packages out, in any order and with any names, the listing is in strictly increasing order of
names. It holds the command that a name finds and no other of that name. The help command changes nothing
and prints each listed command in one entry, in the section of its tier and in the order of the listing. -/
theorem listing_agrees (h : table.Built) :
    (table.listing.Pairwise fun first second => first.name < second.name) ∧
      (∀ name command, command ∈ table.listing ∧ command.name = name ↔
        table.find? name = some command) ∧
      ∃ page, table.HelpPage page ∧
        ∀ (session : Session) (now : Nat) (args : List String), session.table = table →
          Builtin.help.command.call now Builtin.help.name args session = (help table, session) := by
  refine ⟨h.pairwise_listing, fun name command => ?_, _, h.helpPage, ?_⟩
  · constructor
    · rintro ⟨hlisted, rfl⟩
      exact h.mem_listing_iff.1 hlisted
    · intro hfind
      have hname := h.name_of_find? hfind
      exact ⟨h.mem_listing_iff.2 (hname.symm ▸ hfind), hname⟩
  · rintro session now args rfl
    rfl

/-- A built-in command of a name that a package gives to one of its own is shown in its place. -/
theorem listing_agrees_of_shadowed :
    let tools : Package := ⟨"tools", "1", true, ["go", "help"]⟩
    let table := ((empty.register tools).add Builtin.help.command).unregister "rust"
    table.Built ∧ table.listing = [.ofPackage tools "go", Builtin.help.command] ∧
      table.find? "help" = some Builtin.help.command ∧
      ∃ page, table.HelpPage page ∧
        (page.flatMap (·.members)).map helpLine =
          ["  help - Show available commands", "  go - Provided by tools 1"] := by
  intro tools table
  have hbuilt : table.Built := ((Built.empty.register tools).add _).unregister "rust"
  obtain ⟨-, hfind, page, hpage, -⟩ := listing_agrees hbuilt
  have hlisting : table.listing = [.ofPackage tools "go", Builtin.help.command] := by decide +kernel
  refine ⟨hbuilt, hlisting, (hfind _ _).1 ⟨?_, rfl⟩, page, hpage, ?_⟩
  · rw [hlisting]
    exact List.mem_cons_of_mem _ List.mem_cons_self
  · rw [← hpage.entries (by rw [hlisting]; decide +kernel)]
    decide +kernel

end CommandTable
end Shell
end Shellbox
