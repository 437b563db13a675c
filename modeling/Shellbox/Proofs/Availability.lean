import Shellbox.Proofs.PackageAccounts
/-!
# When a command of an installed package is missing

The command table has one command for each name. Of several packages with a command of that name
the one that was installed last has it, and when this one is uninstalled nobody gets the name back,
although others of them may be installed still.

So what a name finds is decided by the list of the changes that were made: by the package that was
installed last with a command of the name, and by whether it has been uninstalled since
(`LastInstalled.lookup_afterChanges`). An installed package was installed and has not been
uninstalled since (`Recorded.installed`). Hence a command of an installed package is missing exactly
if the package that took its name over was uninstalled (`Session.find?_eq_none_iff_lost`), and with
packages that share no name this cannot happen, while with all others it can
(`Session.available_iff_disjoint`).
-/

namespace Shellbox.Shell

/-! ### The table after changes -/

/-- The table after changes one after the other. -/
def CommandTable.afterChanges (table : CommandTable) (changes : List Change) : CommandTable :=
  changes.foldl (fun table change => table.changed change) table

/-- Of the packages with a command of a name, `package` is the one that was installed last, and
`since` are the changes after that. -/
structure LastInstalled (name : String) (changes : List Change) (package : Package)
    (since : List Change) : Prop where
  suffix : .install package :: since <:+ changes
  provides : name ∈ package.commands
  last : ∀ later, .install later ∈ since → name ∉ later.commands

section Changes

variable {table : CommandTable} {changes since : List Change} {change : Change}
  {package : Package} {name : String} {command : Command}

theorem CommandTable.Reached.afterChanges (h : table.Reached) (changes : List Change) :
    (table.afterChanges changes).Reached := by
  induction changes generalizing table with
  | nil => exact h
  | cons change changes ih => exact ih (h.changed change)

/-- If a package with a command of a name was installed at all, one was installed last. -/
theorem exists_lastInstalled (h : .install package ∈ changes) (hname : name ∈ package.commands) :
    ∃ last since, LastInstalled name changes last since := by
  induction changes generalizing package with
  | nil => exact absurd h List.not_mem_nil
  | cons change changes ih =>
    by_cases hlater : ∃ later, .install later ∈ changes ∧ name ∈ later.commands
    · obtain ⟨later, hmem, hprovides⟩ := hlater
      obtain ⟨last, since, hlast⟩ := ih hmem hprovides
      exact ⟨last, since, hlast.suffix.trans (List.suffix_cons change changes), hlast.provides,
        hlast.last⟩
    · rcases List.mem_cons.1 h with rfl | hmem
      · exact ⟨package, changes, List.suffix_rfl, hname,
          fun later hmem hprovides => hlater ⟨later, hmem, hprovides⟩⟩
      · exact absurd ⟨package, hmem, hname⟩ hlater

/-- While no package with a command of the name is installed, the name finds what it has found
before, until the package of that command is uninstalled. -/
theorem CommandTable.Reached.lookup_afterChanges (h : table.Reached)
    (hquiet : ∀ later, .install later ∈ changes → name ∉ later.commands) :
    (table.afterChanges changes).provided.lookup name = some command ↔
      table.provided.lookup name = some command ∧
        ∀ owner ∈ command.package, .uninstall owner.name ∉ changes := by
  induction changes generalizing table with
  | nil => simp [CommandTable.afterChanges]
  | cons change changes ih =>
    have hrest := ih (h.changed change) fun later hmem => hquiet later (List.mem_cons_of_mem _ hmem)
    refine hrest.trans ?_
    cases change with
    | install package =>
      have hname : name ∉ package.commands := hquiet package List.mem_cons_self
      rw [CommandTable.changed, CommandTable.lookup_register, if_neg hname]
      simp
    | uninstall gone =>
      rw [CommandTable.changed, h.lookup_unregister, and_assoc, ← forall₂_and]
      simp

/-- **What a name finds is decided by the package that was installed last with a command of it.**
Nothing is found if that one has been uninstalled since. -/
theorem LastInstalled.lookup_afterChanges (h : LastInstalled name changes package since)
    (htable : table.Reached) :
    (table.afterChanges changes).provided.lookup name = some command ↔
      command = .ofPackage package name ∧ .uninstall package.name ∉ since := by
  obtain ⟨before, rfl⟩ := h.suffix
  have hbefore := (htable.afterChanges before).register package
  have happend : table.afterChanges (before ++ .install package :: since) =
      ((table.afterChanges before).register package).afterChanges since :=
    List.foldl_append
  rw [happend, hbefore.lookup_afterChanges h.last, CommandTable.lookup_register,
    if_pos h.provides]
  constructor
  · rintro ⟨hcommand, hkept⟩
    obtain rfl := Option.some.inj hcommand
    exact ⟨rfl, hkept package rfl⟩
  · rintro ⟨rfl, hkept⟩
    refine ⟨rfl, fun owner howner => ?_⟩
    obtain rfl := Option.some.inj howner
    exact hkept

/-- When the package that was installed last with a command of a name has been uninstalled since,
another one with a command of that name can be installed still, but not that one itself. -/
theorem LastInstalled.name_ne {other : Package} {kept : List Change}
    (h : LastInstalled name changes other since) (hgone : .uninstall other.name ∈ since)
    (hsuffix : .install package :: kept <:+ changes) (hkept : .uninstall package.name ∉ kept)
    (hname : name ∈ package.commands) : other.name ≠ package.name := by
  intro hsame
  have hsince : since <:+ changes := (List.suffix_cons _ _).trans h.suffix
  rcases List.suffix_or_suffix_of_suffix hsince hsuffix with hlater | hearlier
  · rcases List.mem_cons.1 (hlater.subset hgone) with heq | hmem
    · cases heq
    · exact hkept (hsame ▸ hmem)
  · exact h.last package (hearlier.subset List.mem_cons_self) hname

end Changes

/-! ### The changes of a session -/

/-- How the accounts of a session have come about by changes. -/
structure Recorded (origin : Catalog) (changes : List Change) (catalog : Catalog)
    (table : CommandTable) : Prop extends Coherent origin catalog table where
  /-- The table is what the changes have made of that with the commands that are always there. -/
  table_eq : table = CommandTable.builtins.afterChanges changes
  /-- What was installed are packages of the start. -/
  known : ∀ package, .install package ∈ changes →
    package.contents ∈ origin.map Package.contents
  /-- What is installed was installed and has not been uninstalled since. -/
  installed : ∀ package, catalog.find? package.name = some package → package.installed →
    ∃ kept, .install package :: kept <:+ changes ∧ .uninstall package.name ∉ kept

namespace Recorded

variable {origin catalog : Catalog} {changes : List Change} {table : CommandTable}

/-- With one change more, what has not been touched by it is installed still. -/
theorem kept_concat {package : Package} {change : Change}
    (h : ∃ kept, .install package :: kept <:+ changes ∧ .uninstall package.name ∉ kept)
    (hchange : change ≠ .uninstall package.name) :
    ∃ kept, .install package :: kept <:+ changes ++ [change] ∧ .uninstall package.name ∉ kept := by
  obtain ⟨kept, hsuffix, hkept⟩ := h
  refine ⟨kept ++ [change], List.suffix_append_self_iff.2 hsuffix, fun hmem => ?_⟩
  rcases List.mem_append.1 hmem with hmem | hmem
  · exact hkept hmem
  · exact hchange (List.mem_singleton.1 hmem).symm

/-- A change is recorded behind the others. -/
theorem changed (h : Recorded origin changes catalog table) {change : Change}
    (hadmits : catalog.Admits change) :
    Recorded origin (changes ++ [change]) (catalog.changed change) (table.changed change) := by
  have htable : table.changed change =
      CommandTable.builtins.afterChanges (changes ++ [change]) := by
    rw [h.table_eq, CommandTable.afterChanges, CommandTable.afterChanges, List.foldl_append,
      List.foldl_cons, List.foldl_nil]
  refine ⟨h.toCoherent.changed hadmits, htable, ?_, ?_⟩
  · intro package hmem
    rcases List.mem_append.1 hmem with hmem | hmem
    · exact h.known package hmem
    · obtain rfl := List.mem_singleton.1 hmem
      obtain ⟨held, hfind, heq⟩ := hadmits
      have hheld : held.contents ∈ catalog.map Package.contents :=
        List.mem_map_of_mem (Catalog.mem_of_find? hfind)
      rw [heq]
      rwa [h.contents] at hheld
  · intro package hfind hinstalled
    cases change with
    | install new =>
      by_cases hname : package.name = new.name
      · -- the package is the one that has just been installed
        rw [hname, hadmits.find?_install.1] at hfind
        obtain rfl := Option.some.inj hfind
        exact ⟨[], List.suffix_append _ _, List.not_mem_nil⟩
      · rw [Catalog.find?_changed_of_ne hname] at hfind
        exact kept_concat (h.installed package hfind hinstalled) (by simp)
    | uninstall gone =>
      by_cases hname : package.name = gone
      · rw [Catalog.changed, Catalog.find?_setInstalled, if_pos hname] at hfind
        obtain ⟨held, -, rfl⟩ := Option.map_eq_some_iff.1 hfind
        cases hinstalled
      · rw [Catalog.find?_changed_of_ne hname] at hfind
        refine kept_concat (h.installed package hfind hinstalled) fun heq => hname ?_
        exact (Change.uninstall.inj heq).symm

/-- **When a command of an installed package is missing.** Its name is not that of a command that is
always there, and another package, which was installed last with a command of the name, has been
uninstalled since. -/
theorem find?_eq_none_iff {packages : List Package}
    (h : Recorded (.ofPackages packages) changes catalog table) {package : Package} {name : String}
    (hpackage : package ∈ catalog.installed) (hname : name ∈ package.commands) :
    table.find? name = none ↔
      (∀ builtin : Builtin, builtin.name ≠ name) ∧
        ∃ other since, other.name ≠ package.name ∧ LastInstalled name changes other since ∧
          .uninstall other.name ∈ since := by
  by_cases hbuiltin : ∃ builtin : Builtin, builtin.name = name
  · obtain ⟨builtin, rfl⟩ := hbuiltin
    rw [h.reached.find?_builtin builtin]
    exact iff_of_false (Option.some_ne_none _) fun hlost => hlost.1 builtin rfl
  · obtain ⟨hmem, hinstalled⟩ := List.mem_filter.1 hpackage
    obtain ⟨kept, hsuffix, hkept⟩ := h.installed package (h.find?_of_mem hmem) hinstalled
    rw [h.reached.find?_of_ne (not_exists.1 hbuiltin), h.table_eq]
    constructor
    · intro hnone
      obtain ⟨other, since, hlast⟩ := exists_lastInstalled (hsuffix.subset List.mem_cons_self) hname
      have hgone : .uninstall other.name ∈ since := by
        by_contra hkept
        have hsome := (hlast.lookup_afterChanges .builtins).2 ⟨rfl, hkept⟩
        rw [hnone] at hsome
        cases hsome
      exact ⟨not_exists.1 hbuiltin, other, since,
        hlast.name_ne hgone hsuffix hkept hname, hlast, hgone⟩
    · rintro ⟨-, other, since, -, hlast, hgone⟩
      by_contra hne
      obtain ⟨command, hsome⟩ := Option.ne_none_iff_exists'.1 hne
      exact ((hlast.lookup_afterChanges .builtins).1 hsome).2 hgone

end Recorded

namespace Session

variable {session : Session}

/-- The changes of the packages that calls make one after the other. -/
def changes (session : Session) : List Call → List Change
  | [] => []
  | call :: calls => (call.change? session.catalog).toList ++ (session.respond call).changes calls

/-- The packages that are installed at the start have been registered. -/
theorem recorded_start (tree : FileTree) (packages : List Package) (user host : String)
    (clock : Moment) :
    let session := start tree (.ofPackages packages) user host clock
    Recorded (.ofPackages packages) (session.catalog.installed.map .install) session.catalog
      session.table := by
  refine ⟨coherent_start tree packages user host clock, ?_, ?_, ?_⟩
  · rw [CommandTable.afterChanges, List.foldl_map]
    rfl
  · intro package hmem
    obtain ⟨held, hheld, heq⟩ := List.mem_map.1 hmem
    obtain rfl := Change.install.inj heq
    exact List.mem_map_of_mem (List.mem_filter.1 hheld).1
  · intro package hfind hinstalled
    have hpackage : package ∈ Catalog.installed (.ofPackages packages) :=
      List.mem_filter.2 ⟨Catalog.mem_of_find? hfind, hinstalled⟩
    obtain ⟨before, kept, heq⟩ := List.append_of_mem hpackage
    refine ⟨kept.map .install, ⟨before.map .install, ?_⟩, by simp⟩
    rw [← List.map_cons, ← List.map_append, ← heq]
    rfl

/-- A call is recorded with the change that it asks for. -/
theorem recorded_respond {origin : Catalog} {done : List Change}
    (h : Recorded origin done session.catalog session.table) (call : Call) :
    Recorded origin (done ++ (call.change? session.catalog).toList) (session.respond call).catalog
      (session.respond call).table := by
  obtain ⟨hcatalog, htable⟩ := packages_respond h.reached call
  rw [hcatalog, htable]
  cases hchange : call.change? session.catalog with
  | none => rwa [Option.toList_none, List.append_nil]
  | some change => exact h.changed (Call.admits_of_change? hchange)

/-- Any number of calls are recorded with the changes that they make. -/
theorem recorded_afterCalls {origin : Catalog} {done : List Change}
    (h : Recorded origin done session.catalog session.table) (calls : List Call) :
    Recorded origin (done ++ session.changes calls) (session.afterCalls calls).catalog
      (session.afterCalls calls).table := by
  induction calls generalizing session done with
  | nil => rwa [changes, List.append_nil]
  | cons call calls ih =>
    rw [afterCalls_cons, changes, ← List.append_assoc]
    exact ih (recorded_respond h call)

section Start

variable (tree : FileTree) (packages : List Package) (user host : String) (clock : Moment)

/-- **When a command of an installed package is missing.** After any calls, a command of an
installed package is missing exactly if it has not the name of a command that is always there, and
another package with a command of that name, the last one of them to be installed, has been
uninstalled since. -/
theorem find?_eq_none_iff_lost (calls : List Call) :
    let first := start tree (.ofPackages packages) user host clock
    let session := first.afterCalls calls
    let changes := first.catalog.installed.map .install ++ first.changes calls
    ∀ package ∈ session.catalog.installed, ∀ name ∈ package.commands,
      (session.table.find? name = none ↔
        (∀ builtin : Builtin, builtin.name ≠ name) ∧
          ∃ other since, other.name ≠ package.name ∧ LastInstalled name changes other since ∧
            .uninstall other.name ∈ since) := by
  intro first session changes package hpackage name hname
  have h : Recorded (.ofPackages packages) changes session.catalog session.table :=
    recorded_afterCalls (recorded_start tree packages user host clock) calls
  exact h.find?_eq_none_iff hpackage hname

/-- Two packages claim a name, and the one that has it is uninstalled: the other one is installed
and has lost its command. -/
theorem uninstalled_neighbour_takes_command :
    let packages : List Package := [⟨"a", "1", true, ["x"]⟩, ⟨"b", "1", true, ["x"]⟩]
    let session :=
      (start .empty (.ofPackages packages) "user" "host" ⟨2024, 1, 2, 3, 4, 5⟩).afterCalls
        [.line 1 "brew uninstall b"]
    ⟨"a", "1", true, ["x"]⟩ ∈ session.catalog.installed ∧ session.table.find? "x" = none := by
  decide +kernel

/-- The package that has lost its command gets it back by being installed once more. -/
theorem reinstalled_package_has_command :
    let packages : List Package := [⟨"a", "1", true, ["x"]⟩, ⟨"b", "1", true, ["x"]⟩]
    let calls : List Call := [.line 1 "brew uninstall b", .install "a"]
    let first := start .empty (.ofPackages packages) "user" "host" ⟨2024, 1, 2, 3, 4, 5⟩
    let session := first.afterCalls calls
    let changes := first.catalog.installed.map Change.install ++ first.changes calls
    ⟨"a", "1", true, ["x"]⟩ ∈ session.catalog.installed ∧
      ¬∃ other since, other.name ≠ "a" ∧ LastInstalled "x" changes other since ∧
        .uninstall other.name ∈ since := by
  intro packages calls first session changes
  have hlost := find?_eq_none_iff_lost .empty packages "user" "host" ⟨2024, 1, 2, 3, 4, 5⟩ calls
    ⟨"a", "1", true, ["x"]⟩ (by decide +kernel) "x" (by decide)
  have hfound : session.table.find? "x" ≠ none := by decide +kernel
  refine ⟨by decide +kernel, fun hother => hfound (hlost.2 ⟨fun builtin => ?_, hother⟩)⟩
  cases builtin <;> decide

/-! ### Packages that share no name -/

variable {packages} in
/-- When two packages share a name that is not taken by a command that is always there, installing
both and uninstalling one of them leaves the other one without its command. -/
theorem lost_of_shared {left right : Package} {name : String}
    (hleft : left ∈ Catalog.ofPackages packages) (hright : right ∈ Catalog.ofPackages packages)
    (hne : left.name ≠ right.name) (hname : name ∈ right.commands)
    (hbuiltin : ∀ builtin : Builtin, builtin.name ≠ name) :
    let session := (start tree (.ofPackages packages) user host clock).afterCalls
      [.install left.name, .install right.name, .uninstall right.name]
    { left with installed := true } ∈ session.catalog.installed ∧
      session.table.find? name = none := by
  intro session
  have hnodup := Catalog.nodup_keys_ofPackages packages
  have hleftFind := Catalog.find?_of_mem hnodup hleft
  have hrightFind := Catalog.find?_of_mem hnodup hright
  let first := start tree (.ofPackages packages) user host clock
  let one := first.changed (some (.install { left with installed := true }))
  let two := one.changed (some (.install { right with installed := true }))
  let three := two.changed (some (.uninstall right.name))
  have hone : one.catalog.find? right.name = some right := by
    simp [one, first, start, changed, Catalog.changed, Catalog.find?_setInstalled, hne.symm,
      hrightFind]
  have htwo : two.catalog.find? right.name = some { right with installed := true } := by
    simp [two, changed, Catalog.changed, Catalog.find?_setInstalled, hone]
  have hthree : three.catalog.find? left.name = some { left with installed := true } := by
    simp [three, two, one, first, start, changed, Catalog.changed, Catalog.find?_setInstalled, hne,
      hleftFind]
  have hsession : session = three := by
    simp only [session]
    rw [afterCalls_cons, respond_install hleftFind, afterCalls_cons, respond_install hone,
      afterCalls_cons, respond_uninstall htwo]
    rfl
  rw [hsession]
  constructor
  · exact List.mem_filter.2 ⟨Catalog.mem_of_find? hthree, rfl⟩
  · have hreached : two.table.Reached :=
      table_changed_reached _ (table_changed_reached _ (table_start_reached _ _ _ _ _))
    change (two.table.unregister right.name).find? name = none
    rw [(hreached.unregister right.name).find?_of_ne hbuiltin]
    by_contra hsome
    obtain ⟨command, hcommand⟩ := Option.ne_none_iff_exists'.1 hsome
    obtain ⟨hbefore, howner⟩ := hreached.lookup_unregister.1 hcommand
    -- the command under the name is that of the package that was installed last
    rw [show two.table = one.table.register { right with installed := true } from rfl,
      CommandTable.lookup_register, if_pos hname] at hbefore
    obtain rfl := Option.some.inj hbefore
    exact howner _ rfl rfl

/-- **With which packages the commands of installed packages are always there.** It is so, whatever
the calls, exactly if no two packages have a command of the same name, unless it is also the name of
a command that is always there. -/
theorem available_iff_disjoint :
    (∀ calls,
      let session := (start tree (.ofPackages packages) user host clock).afterCalls calls
      ∀ package ∈ session.catalog.installed, ∀ name ∈ package.commands,
        session.table.find? name ≠ none) ↔
      ∀ left ∈ Catalog.ofPackages packages, ∀ right ∈ Catalog.ofPackages packages,
        left.name ≠ right.name → ∀ name ∈ left.commands, name ∈ right.commands →
          ∃ builtin : Builtin, builtin.name = name := by
  constructor
  · intro havailable left hleft right hright hne name hinLeft hinRight
    by_contra hbuiltin
    obtain ⟨hinstalled, hnone⟩ := lost_of_shared tree user host clock hleft hright
      hne hinRight (not_exists.1 hbuiltin)
    exact havailable _ _ hinstalled name hinLeft hnone
  · intro hdisjoint calls session package hpackage name hname hnone
    have h : Recorded (.ofPackages packages) _ session.catalog session.table :=
      recorded_afterCalls (recorded_start tree packages user host clock) calls
    obtain ⟨hbuiltin, other, since, hne, hlast, -⟩ := (h.find?_eq_none_iff hpackage hname).1 hnone
    -- both packages are packages of the start, but for what is installed
    have hother := h.known other (hlast.suffix.subset List.mem_cons_self)
    have hheld : package.contents ∈ session.catalog.map Package.contents :=
      List.mem_map_of_mem (List.mem_filter.1 hpackage).1
    rw [h.contents] at hheld
    obtain ⟨left, hleft, hleftEq⟩ := List.mem_map.1 hheld
    obtain ⟨right, hright, hrightEq⟩ := List.mem_map.1 hother
    simp only [Package.contents, Prod.mk.injEq] at hleftEq hrightEq
    have hnames : left.name ≠ right.name := by
      rw [hleftEq.1, hrightEq.1]
      exact hne.symm
    have hinLeft : name ∈ left.commands := by rwa [hleftEq.2.2]
    have hinRight : name ∈ right.commands := by rw [hrightEq.2.2]; exact hlast.provides
    obtain ⟨builtin, hbuiltinName⟩ := hdisjoint left hleft right hright hnames name hinLeft hinRight
    exact hbuiltin builtin hbuiltinName

end Start

end Session

end Shellbox.Shell
