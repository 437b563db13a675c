import Shellbox.Proofs.CommandScope
/-!
# The two accounts of the packages agree

What packages a session has is written down twice: in the catalog, and in the command table, whose
commands of packages hold the package that they come from. Command lines and calls of
`Session.install` and `Session.uninstall` change both, one by one and in any order (`Call`), and
packages may have commands of the same name.

`Coherent` says how the two fit together: each entry of the table comes from a package that the
catalog holds just so, installed and with a command of that name (`Catalog.Backs`), and the catalog
is that of the start but for what is installed. A change keeps that if what it installs is a package
of the catalog (`Coherent.changed`), and it is so for all that a call can ask for
(`Call.admits_of_change?`). So it holds after any number of calls (`Session.coherent_afterCalls`).
-/

namespace Shellbox

/-- All of a package but whether it is installed. -/
def Package.contents (package : Package) : String × String × List String :=
  (package.name, package.version, package.commands)

/-! ### Catalogs -/

namespace Catalog

variable {catalog : Catalog} {package : Package} {name : String}

/-- A catalog as pairs of a name and the package of that name. -/
def pairs (catalog : Catalog) : List (String × Package) := catalog.map fun held => (held.name, held)

theorem pairs_put (package : Package) (catalog : Catalog) :
    (catalog.put package).pairs = Keyed.put package.name package catalog.pairs := by
  induction catalog with
  | nil => rfl
  | cons first rest ih =>
    simp only [put, pairs, List.map_cons, Keyed.put] at ih ⊢
    split
    · next hname => rw [List.map_cons, hname]
    · rw [List.map_cons, ih]

theorem find?_eq_lookup (name : String) (catalog : Catalog) :
    catalog.find? name = catalog.pairs.lookup name := by
  induction catalog with
  | nil => rfl
  | cons first rest ih =>
    simp only [find?, pairs, List.map_cons, List.find?_cons, List.lookup_cons] at ih ⊢
    by_cases hname : first.name = name
    · simp [hname]
    · simpa [hname, beq_eq_false_iff_ne.2 (Ne.symm hname)] using ih

/-- Each name is in a catalog once, however often it was in the list of packages. -/
theorem nodup_keys_ofPackages (packages : List Package) :
    (Keyed.keys (ofPackages packages).pairs).Nodup := by
  have hfold : ∀ (packages : List Package) {catalog : Catalog},
      (Keyed.keys catalog.pairs).Nodup →
        (Keyed.keys (packages.foldl (fun catalog package => catalog.put package)
          catalog).pairs).Nodup := by
    intro packages
    induction packages with
    | nil => exact id
    | cons package packages ih =>
      intro catalog h
      exact ih (by rw [pairs_put]; exact Keyed.nodup_keys_put h _ _)
  exact hfold packages List.nodup_nil

/-- When each name is there once, a package is found under its name. -/
theorem find?_of_mem (h : (Keyed.keys catalog.pairs).Nodup) (hmem : package ∈ catalog) :
    catalog.find? package.name = some package := by
  rw [find?_eq_lookup, Keyed.lookup_eq_some_iff h]
  exact List.mem_map.2 ⟨package, hmem, rfl⟩

/-- The names are part of the contents. -/
theorem keys_pairs (catalog : Catalog) :
    Keyed.keys catalog.pairs = (catalog.map Package.contents).map Prod.fst := by
  simp [Keyed.keys, pairs, Package.contents]

theorem mem_of_find? (h : catalog.find? name = some package) : package ∈ catalog :=
  List.mem_of_find?_eq_some h

/-- Installing and uninstalling leave the packages, their order, versions and commands alone. -/
theorem map_contents_changed (change : Change) (catalog : Catalog) :
    (catalog.changed change).map Package.contents = catalog.map Package.contents := by
  have hset : ∀ value name, (catalog.setInstalled value name).map Package.contents =
      catalog.map Package.contents := by
    intro value name
    rw [setInstalled, List.map_map]
    refine List.map_congr_left fun package _ => ?_
    simp only [Function.comp_apply]
    split <;> rfl
  cases change <;> exact hset _ _

/-- Whether an entry of a command table comes from a package that the catalog holds just so:
installed and with a command of that name. -/
def Backs (catalog : Catalog) (entry : String × Shell.Command) : Prop :=
  ∃ package, entry.2 = .ofPackage package entry.1 ∧ catalog.find? package.name = some package ∧
    package.installed ∧ entry.1 ∈ package.commands

/-- Whether a change can be made to a catalog: what it installs is a package that is there. -/
def Admits (catalog : Catalog) : Change → Prop
  | .install package =>
    ∃ held, catalog.find? package.name = some held ∧ package = { held with installed := true }
  | .uninstall _ => True

variable {entry : String × Shell.Command}

/-- What an installed package backs stays so when any package is installed. -/
theorem Backs.install (h : catalog.Backs entry) (package : Package) :
    (catalog.changed (.install package)).Backs entry := by
  obtain ⟨owner, hcommand, hfind, hinstalled, hname⟩ := h
  refine ⟨owner, hcommand, ?_, hinstalled, hname⟩
  rw [changed, find?_setInstalled, hfind]
  split
  · rw [Option.map_some, ← hinstalled]
  · rfl

/-- It stays so when some other package is uninstalled. -/
theorem Backs.uninstall (h : catalog.Backs entry)
    (hne : ∀ package ∈ entry.2.package, package.name ≠ name) :
    (catalog.changed (.uninstall name)).Backs entry := by
  obtain ⟨owner, hcommand, hfind, hinstalled, hname⟩ := h
  refine ⟨owner, hcommand, ?_, hinstalled, hname⟩
  have howner : owner.name ≠ name := hne owner (by rw [hcommand]; rfl)
  rw [find?_changed_of_ne howner, hfind]

theorem admits_of_installing? {change : Change} (h : catalog.installing? name = some change) :
    catalog.Admits change := by
  obtain ⟨held, hfind, rfl⟩ := Option.map_eq_some_iff.1 h
  exact ⟨held, by rwa [name_of_find? hfind], rfl⟩

theorem admits_of_uninstalling? {change : Change} (h : catalog.uninstalling? name = some change) :
    catalog.Admits change := by
  obtain ⟨held, -, rfl⟩ := Option.map_eq_some_iff.1 h
  trivial

/-- An installed package is found as such. -/
theorem Admits.find?_install (h : catalog.Admits (.install package)) :
    (catalog.changed (.install package)).find? package.name = some package ∧ package.installed := by
  obtain ⟨held, hfind, heq⟩ := h
  refine ⟨?_, by rw [heq]⟩
  rw [changed, find?_setInstalled, if_pos rfl, hfind, Option.map_some, ← heq]

end Catalog

namespace Shell

/-! ### Coherent accounts -/

/-- How the catalog and the command table of a session fit together and to the catalog that the
session had at its start. -/
structure Coherent (origin catalog : Catalog) (table : CommandTable) : Prop where
  /-- The table is one that a session can have. -/
  reached : table.Reached
  /-- Nothing but what is installed differs from the start. -/
  contents : catalog.map Package.contents = origin.map Package.contents
  /-- Each command of a package comes from a package that is installed. -/
  backed : ∀ entry ∈ table.provided, catalog.Backs entry

namespace Coherent

variable {origin catalog : Catalog} {table : CommandTable} {package : Package}

/-- Each package of the catalog is found under its name. -/
theorem find?_of_mem {packages : List Package} (h : Coherent (.ofPackages packages) catalog table)
    (hmem : package ∈ catalog) : catalog.find? package.name = some package := by
  refine Catalog.find?_of_mem ?_ hmem
  rw [Catalog.keys_pairs, h.contents, ← Catalog.keys_pairs]
  exact Catalog.nodup_keys_ofPackages packages

/-- A package that is installed can be registered, also once more. -/
theorem register (h : Coherent origin catalog table)
    (hfind : catalog.find? package.name = some package) (hinstalled : package.installed) :
    Coherent origin catalog (table.register package) := by
  refine ⟨h.reached.register package, h.contents, fun entry hentry => ?_⟩
  rcases CommandTable.mem_provided_register hentry with ⟨hname, hcommand⟩ | hentry
  · exact ⟨package, hcommand, hfind, hinstalled, hname⟩
  · exact h.backed entry hentry

/-- **A change keeps the accounts coherent.** Installing a package first changes the catalog, which
takes the backing from no entry, and then registers a package that the catalog holds. Uninstalling
one takes exactly those entries out that the package has backed. -/
theorem changed (h : Coherent origin catalog table) {change : Change}
    (hadmits : catalog.Admits change) :
    Coherent origin (catalog.changed change) (table.changed change) := by
  have hcontents := (catalog.map_contents_changed change).trans h.contents
  cases change with
  | install package =>
    obtain ⟨hfind, hinstalled⟩ := hadmits.find?_install
    have hcatalog : Coherent origin (catalog.changed (.install package)) table :=
      ⟨h.reached, hcontents, fun entry hentry => (h.backed entry hentry).install package⟩
    exact hcatalog.register hfind hinstalled
  | uninstall name =>
    refine ⟨h.reached.unregister name, hcontents, fun entry hentry => ?_⟩
    obtain ⟨hentry, hne⟩ := CommandTable.mem_provided_unregister.1 hentry
    exact (h.backed entry hentry).uninstall hne

end Coherent

/-- A session starts with coherent accounts. -/
theorem Session.coherent_start (tree : FileTree) (packages : List Package) (user host : String)
    (clock : Moment) :
    let session := start tree (.ofPackages packages) user host clock
    Coherent (.ofPackages packages) session.catalog session.table := by
  have hfold : ∀ (installed : List Package) {table : CommandTable},
      (∀ package ∈ installed, package ∈ Catalog.installed (.ofPackages packages)) →
      Coherent (.ofPackages packages) (.ofPackages packages) table →
        Coherent (.ofPackages packages) (.ofPackages packages)
          (installed.foldl (fun table package => table.register package) table) := by
    intro installed
    induction installed with
    | nil => exact fun _ h => h
    | cons package installed ih =>
      intro table hmem h
      obtain ⟨hpackage, hinstalled⟩ := List.mem_filter.1 (hmem package List.mem_cons_self)
      have hfind := Catalog.find?_of_mem (Catalog.nodup_keys_ofPackages packages) hpackage
      exact ih (fun other hother => hmem other (List.mem_cons_of_mem _ hother))
        (h.register hfind hinstalled)
  refine hfold _ (fun _ => id) ⟨.builtins, rfl, fun entry hentry => ?_⟩
  rw [CommandTable.builtins_eq] at hentry
  exact absurd hentry List.not_mem_nil

/-! ### Calls -/

/-- What can be asked of a session. -/
inductive Call where
  /-- A line is run at a time. -/
  | line (now : Nat) (text : String)
  /-- The package of a name is installed. -/
  | install (name : String)
  /-- The package of a name is uninstalled. -/
  | uninstall (name : String)
  deriving DecidableEq, Repr

/-- The change of the packages that a call asks for. -/
def Call.change? : Call → Catalog → Option Change
  | line _ text => lineChange? text
  | install name => Catalog.installing? name
  | uninstall name => Catalog.uninstalling? name

/-- The session after a call, whether the call fails or not. -/
def Session.respond (session : Session) : Call → Session
  | .line now text => (session.run now text).2
  | .install name => (session.install name).2
  | .uninstall name => (session.uninstall name).2

/-- The session after calls one after the other. -/
def Session.afterCalls (session : Session) (calls : List Call) : Session :=
  calls.foldl respond session

namespace Call

variable {call : Call} {catalog : Catalog} {change : Change}

/-- **What a call asks for is something that the catalog admits**, since it is looked up there. -/
theorem admits_of_change? (h : call.change? catalog = some change) : catalog.Admits change := by
  cases call with
  | install name => exact Catalog.admits_of_installing? h
  | uninstall name => exact Catalog.admits_of_uninstalling? h
  | line now text =>
    simp only [change?, lineChange?, brewChange?] at h
    split at h
    · split at h
      · split at h
        · cases h
        · exact Catalog.admits_of_installing? h
      · split at h
        · cases h
        · exact Catalog.admits_of_uninstalling? h
      · cases h
    · cases h

end Call

namespace Session

variable {session : Session}

/-- A call makes the change of the packages that it asks for, and no other. -/
theorem packages_respond (h : session.table.Reached) (call : Call) :
    let change := call.change? session.catalog
    (session.respond call).catalog = (session.changed change).catalog ∧
      (session.respond call).table = (session.changed change).table := by
  cases call with
  | line now text => simpa only [respond, Call.change?] using packages_run h now text
  | install name => simp only [respond, Call.change?, install_eq, and_self]
  | uninstall name => simp only [respond, Call.change?, uninstall_eq, and_self]

theorem respond_install {name : String} {held : Package}
    (h : session.catalog.find? name = some held) :
    session.respond (.install name) =
      session.changed (some (.install { held with installed := true })) := by
  rw [respond, install_eq, Catalog.installing?, h, Option.map_some]

theorem respond_uninstall {name : String} {held : Package}
    (h : session.catalog.find? name = some held) :
    session.respond (.uninstall name) = session.changed (some (.uninstall name)) := by
  rw [respond, uninstall_eq, Catalog.uninstalling?, h, Option.map_some]

theorem afterCalls_cons (session : Session) (call : Call) (calls : List Call) :
    session.afterCalls (call :: calls) = (session.respond call).afterCalls calls := by
  rw [afterCalls, List.foldl_cons, afterCalls]

/-- A call keeps the accounts coherent. -/
theorem coherent_respond {origin : Catalog} (h : Coherent origin session.catalog session.table)
    (call : Call) :
    Coherent origin (session.respond call).catalog (session.respond call).table := by
  obtain ⟨hcatalog, htable⟩ := packages_respond h.reached call
  rw [hcatalog, htable]
  cases hchange : call.change? session.catalog with
  | none => exact h
  | some change => exact h.changed (Call.admits_of_change? hchange)

/-- Any number of calls keep the accounts coherent. -/
theorem coherent_afterCalls {origin : Catalog}
    (h : Coherent origin session.catalog session.table) (calls : List Call) :
    Coherent origin (session.afterCalls calls).catalog (session.afterCalls calls).table := by
  induction calls generalizing session with
  | nil => exact h
  | cons call calls ih =>
    rw [afterCalls_cons]
    exact ih (coherent_respond h call)

/-- **The command table is sound.** After any lines and any calls that install or uninstall
packages, failing ones included, each command of a package in the table carries the package just as
the catalog holds it, installed and with a command of that name. The names of the commands that are
always there find these commands, whatever the packages claim. The catalog has the packages of the
start in their order, with their versions and commands. -/
theorem accounts_agree_afterCalls (tree : FileTree) (packages : List Package)
    (user host : String) (clock : Moment) (calls : List Call) :
    let session := (start tree (.ofPackages packages) user host clock).afterCalls calls
    (∀ entry ∈ session.table.provided, ∃ package : Package,
      entry.2 = .ofPackage package entry.1 ∧
        session.catalog.find? package.name = some package ∧ package.installed = true ∧
          entry.1 ∈ package.commands) ∧
    (∀ builtin : Builtin, session.table.find? builtin.name = some builtin.command) ∧
    session.catalog.map (fun package => (package.name, package.version, package.commands)) =
      (Catalog.ofPackages packages).map
        fun package => (package.name, package.version, package.commands) := by
  intro session
  have h : Coherent (.ofPackages packages) session.catalog session.table :=
    coherent_afterCalls (coherent_start tree packages user host clock) calls
  exact ⟨h.backed, h.reached.find?_builtin, h.contents⟩

/-- Two packages claim a name, and one of them claims that of a built-in command. The second is
installed once more after the first one took the name over, and the first one is uninstalled. -/
theorem reinstalled_package_backs :
    let packages : List Package :=
      [⟨"left", "1.0", true, ["cat", "x"]⟩, ⟨"right", "2.0", false, ["x"]⟩]
    let calls : List Call := [.install "right", .install "left", .line 1 "brew install right",
      .install "right", .line 2 "BREW uninstall left", .uninstall "none"]
    let session :=
      (start .empty (.ofPackages packages) "user" "host" ⟨2024, 1, 2, 3, 4, 5⟩).afterCalls calls
    let entry := ("x", Command.ofPackage ⟨"right", "2.0", true, ["x"]⟩ "x")
    entry ∈ session.table.provided ∧ session.catalog.Backs entry := by
  intro packages calls session entry
  subst session
  have hagree := accounts_agree_afterCalls .empty packages "user" "host" ⟨2024, 1, 2, 3, 4, 5⟩ calls
  exact (and_iff_left_of_imp (hagree.1 entry)).2 (by decide +kernel)

end Session

end Shell
end Shellbox
