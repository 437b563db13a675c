import Shellbox.Proofs.KeyedPairs
import Shellbox.Shell.Command
/-!
# The command tables that a session can have

A session starts with the commands that are always there, and from then on packages are registered
and taken out again. `CommandTable.Reached` are the tables that come about in this way, in any order
and with any packages, two of which may have commands of the same name.

In all of them the fixed part is that of the start, so the name of a built-in command finds that
command whatever the packages claim (`Reached.find?_builtin`), and the other part holds nothing but
commands of packages, one for each name (`Reached.provided_eq`, `Reached.nodup_keys`). What is found
there after a package was registered or taken out is said by `lookup_register` and
`Reached.lookup_unregister`.
-/

namespace Shellbox

namespace Shell

/-! ### The commands that are always there -/

namespace Builtin

theorem mem_all (builtin : Builtin) : builtin ∈ all := by
  cases builtin <;> decide

theorem nodup_names : (all.map name).Nodup := by decide +kernel

/-- Different commands have different names. -/
theorem name_injective {first second : Builtin} (h : first.name = second.name) : first = second :=
  List.inj_on_of_nodup_map nodup_names (mem_all first) (mem_all second) h

end Builtin

namespace CommandTable

theorem builtins_eq :
    builtins = ⟨Builtin.all.map fun builtin => (builtin.name, builtin.command), []⟩ := by
  decide +kernel

theorem nodup_keys_fixed_builtins : (Keyed.keys builtins.fixed).Nodup := by
  rw [builtins_eq, Keyed.keys, List.map_map]
  exact Builtin.nodup_names

/-- At the start, exactly the names of the built-in commands are taken. -/
theorem lookup_fixed_builtins {name : String} {command : Command} :
    builtins.fixed.lookup name = some command ↔
      ∃ builtin : Builtin, builtin.name = name ∧ builtin.command = command := by
  rw [Keyed.lookup_eq_some_iff nodup_keys_fixed_builtins, builtins_eq, List.mem_map]
  constructor
  · rintro ⟨builtin, -, heq⟩
    exact ⟨builtin, congrArg Prod.fst heq, congrArg Prod.snd heq⟩
  · rintro ⟨builtin, rfl, rfl⟩
    exact ⟨builtin, builtin.mem_all, rfl⟩

/-! ### Registering a package and taking it out -/

section Register

variable (package : Package) (table : CommandTable)

/-- Registering the commands of some names that a package provides. -/
theorem foldl_add_ofPackage (names : List String) :
    names.foldl (fun table name => table.add (.ofPackage package name)) table =
      { table with
        provided := names.foldl (fun pairs name => Keyed.put name (.ofPackage package name) pairs)
          table.provided } := by
  induction names generalizing table with
  | nil => rfl
  | cons name names ih => exact ih _

theorem register_eq :
    table.register package =
      { table with
        provided := package.commands.foldl
          (fun pairs name => Keyed.put name (.ofPackage package name) pairs) table.provided } :=
  foldl_add_ofPackage package table package.commands

@[simp] theorem fixed_register : (table.register package).fixed = table.fixed := by
  rw [register_eq]

@[simp] theorem fixed_unregister (name : String) :
    (table.unregister name).fixed = table.fixed := rfl

/-- A registered package has its command under each of its names, and under the other names nothing
changes. -/
theorem lookup_register (name : String) :
    (table.register package).provided.lookup name =
      if name ∈ package.commands then some (.ofPackage package name)
      else table.provided.lookup name := by
  rw [register_eq]
  simp only
  generalize table.provided = pairs
  induction package.commands generalizing pairs with
  | nil => rfl
  | cons first names ih =>
    rw [List.foldl_cons, ih, Keyed.lookup_put]
    by_cases hnames : name ∈ names
    · simp [hnames]
    · by_cases hfirst : name = first <;> simp [hnames, hfirst]

/-- What packages provide after one was registered is what it provides or was there before. -/
theorem mem_provided_register {table : CommandTable} {package : Package}
    {entry : String × Command} (h : entry ∈ (table.register package).provided) :
    (entry.1 ∈ package.commands ∧ entry.2 = .ofPackage package entry.1) ∨
      entry ∈ table.provided := by
  rw [register_eq] at h
  simp only at h
  generalize table.provided = pairs at h ⊢
  generalize package.commands = names at h ⊢
  induction names generalizing pairs with
  | nil => exact Or.inr h
  | cons first names ih =>
    rcases ih _ h with ⟨hname, hcommand⟩ | hmem
    · exact Or.inl ⟨List.mem_cons_of_mem _ hname, hcommand⟩
    · rcases Keyed.mem_of_mem_put hmem with rfl | hmem
      · exact Or.inl ⟨List.mem_cons_self, rfl⟩
      · exact Or.inr hmem

/-- When a package has been taken out, what packages provide is what was there before without its
own commands. -/
theorem mem_provided_unregister {table : CommandTable} {name : String}
    {entry : String × Command} :
    entry ∈ (table.unregister name).provided ↔
      entry ∈ table.provided ∧ ∀ package ∈ entry.2.package, package.name ≠ name := by
  simp [unregister, List.mem_filter, Option.all_eq_true]

end Register

/-! ### Tables of sessions -/

/-- The tables that a session can have. -/
inductive Reached : CommandTable → Prop
  /-- A session starts with the commands that are always there. -/
  | builtins : Reached builtins
  /-- The commands of a package are added. -/
  | register (package : Package) {table : CommandTable} :
      Reached table → Reached (table.register package)
  /-- The commands of a package are taken out. -/
  | unregister (name : String) {table : CommandTable} :
      Reached table → Reached (table.unregister name)

namespace Reached

variable {table : CommandTable} {name : String} {command : Command}

theorem fixed_eq (h : table.Reached) : table.fixed = CommandTable.builtins.fixed := by
  induction h with
  | builtins => rfl
  | register package _ ih => rw [fixed_register, ih]
  | unregister name _ ih => rw [fixed_unregister, ih]

/-- Apart from the commands that are always there, a table holds commands of packages alone. -/
theorem provided_eq (h : table.Reached) :
    ∀ entry ∈ table.provided, ∃ package, entry.2 = .ofPackage package entry.1 := by
  induction h with
  | builtins =>
    rw [builtins_eq]
    exact fun entry hentry => absurd hentry List.not_mem_nil
  | register package _ ih =>
    intro entry hentry
    rcases mem_provided_register hentry with ⟨-, hcommand⟩ | hentry
    · exact ⟨package, hcommand⟩
    · exact ih entry hentry
  | unregister name _ ih =>
    exact fun entry hentry => ih entry (mem_provided_unregister.1 hentry).1

/-- Under each name a table holds one command of a package at most. -/
theorem nodup_keys (h : table.Reached) : (Keyed.keys table.provided).Nodup := by
  induction h with
  | builtins =>
    rw [builtins_eq]
    exact List.nodup_nil
  | @register package table _ ih =>
    rw [register_eq]
    simp only
    generalize table.provided = pairs at ih ⊢
    induction package.commands generalizing pairs with
    | nil => exact ih
    | cons first names ihNames => exact ihNames _ (Keyed.nodup_keys_put ih _ _)
  | unregister name _ ih => exact ih.sublist (List.filter_sublist.map _)

/-- The name of a built-in command finds that command. -/
theorem find?_builtin (h : table.Reached) (builtin : Builtin) :
    table.find? builtin.name = some builtin.command := by
  rw [find?, h.fixed_eq, lookup_fixed_builtins.2 ⟨builtin, rfl, rfl⟩]

/-- Any other name finds what the packages provide under it. -/
theorem find?_of_ne (h : table.Reached) (hname : ∀ builtin : Builtin, builtin.name ≠ name) :
    table.find? name = table.provided.lookup name := by
  have hnone : CommandTable.builtins.fixed.lookup name = none := by
    by_contra hsome
    obtain ⟨command, hcommand⟩ := Option.ne_none_iff_exists'.1 hsome
    obtain ⟨builtin, hbuiltin, -⟩ := lookup_fixed_builtins.1 hcommand
    exact hname builtin hbuiltin
  rw [find?, h.fixed_eq, hnone]

/-- What a name finds is the built-in command of that name or a command of a package. -/
theorem find?_cases (h : table.Reached) (hfind : table.find? name = some command) :
    (∃ builtin : Builtin, builtin.name = name ∧ command = builtin.command) ∨
      ∃ package, command = .ofPackage package name := by
  by_cases hname : ∃ builtin : Builtin, builtin.name = name
  · obtain ⟨builtin, rfl⟩ := hname
    rw [h.find?_builtin builtin] at hfind
    exact Or.inl ⟨builtin, rfl, (Option.some.inj hfind).symm⟩
  · rw [h.find?_of_ne (not_exists.1 hname), Keyed.lookup_eq_some_iff h.nodup_keys] at hfind
    exact Or.inr (h.provided_eq _ hfind)

/-- When a package has been taken out, its commands are not found any more, and all others are. -/
theorem lookup_unregister (h : table.Reached) {gone : String} :
    (table.unregister gone).provided.lookup name = some command ↔
      table.provided.lookup name = some command ∧
        ∀ package ∈ command.package, package.name ≠ gone := by
  rw [Keyed.lookup_eq_some_iff (h.unregister gone).nodup_keys, mem_provided_unregister,
    Keyed.lookup_eq_some_iff h.nodup_keys]

end Reached

end CommandTable

end Shell
end Shellbox
