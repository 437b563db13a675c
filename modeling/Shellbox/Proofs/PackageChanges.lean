import Shellbox.Proofs.CommandTables
import Shellbox.Shell.Brew
/-!
# Changes of the packages

A session keeps two accounts of its packages: the catalog knows which of them are installed, and the
command table holds the commands of those. Whatever asks for it, both accounts are changed together
and in one of two ways, a `Change`: a package is installed or one is uninstalled.

`Session.install` and `Session.uninstall` make their change whenever there is a package of the name
(`Session.install_eq`, `Session.uninstall_eq`); `brew` makes it only if the package is not in the
wanted state already (`brew_eq`). Nothing else of a session changes.
-/

namespace Shellbox

/-- A change of the packages of a session. -/
inductive Change where
  /-- A package is installed. -/
  | install (package : Package)
  /-- The package of a name is uninstalled. -/
  | uninstall (name : String)
  deriving DecidableEq, Repr

/-- The name of the package that a change is about. -/
def Change.name : Change → String
  | install package => package.name
  | uninstall name => name

namespace Catalog

variable {name other : String} {package : Package}

/-- The catalog after a change. -/
def changed : Change → Catalog → Catalog
  | .install package => setInstalled true package.name
  | .uninstall name => setInstalled false name

/-- The change that installs the package of a name, if there is one. -/
def installing? (name : String) (catalog : Catalog) : Option Change :=
  (catalog.find? name).map fun package => .install { package with installed := true }

/-- The change that uninstalls the package of a name, if there is one. -/
def uninstalling? (name : String) (catalog : Catalog) : Option Change :=
  (catalog.find? name).map fun _ => .uninstall name

theorem name_of_find? {catalog : Catalog} (h : catalog.find? name = some package) :
    package.name = name := by
  simpa using List.find?_some h

/-- Marking the package of a name changes the mark of that package and nothing else. -/
theorem find?_setInstalled (value : Bool) (name other : String) (catalog : Catalog) :
    (catalog.setInstalled value name).find? other =
      if other = name then
        (catalog.find? other).map fun package => { package with installed := value }
      else catalog.find? other := by
  induction catalog with
  | nil => simp [setInstalled, find?]
  | cons first rest ih =>
    simp only [setInstalled, find?, List.map_cons, List.find?_cons] at ih ⊢
    by_cases hfirst : first.name = name
    · by_cases hother : other = name
      · simp [hfirst, hother]
      · simpa [hfirst, Ne.symm hother, hother] using ih
    · rw [if_neg hfirst]
      by_cases hother : first.name = other
      · simp [hother, show ¬other = name from hother ▸ hfirst]
      · simpa [hother] using ih

/-- The other packages do not change. -/
theorem find?_changed_of_ne {change : Change} (h : other ≠ change.name) (catalog : Catalog) :
    (catalog.changed change).find? other = catalog.find? other := by
  cases change <;> rw [changed, find?_setInstalled] <;> exact if_neg h

end Catalog

namespace Shell

/-- The table after a change. -/
def CommandTable.changed : Change → CommandTable → CommandTable
  | .install package => register package
  | .uninstall name => unregister name

theorem CommandTable.Reached.changed {table : CommandTable} (h : table.Reached) (change : Change) :
    (table.changed change).Reached := by
  cases change with
  | install package => exact h.register package
  | uninstall name => exact h.unregister name

/-- The session after a change of its packages, if there is one. -/
def Session.changed (change : Option Change) (session : Session) : Session :=
  match change with
  | none => session
  | some change =>
    { session with
      catalog := session.catalog.changed change
      table := session.table.changed change }

/-- The change that `brew` makes. A package that is installed does not get installed once more, and
one that is not does not get uninstalled. -/
def brewChange? (args : List String) (catalog : Catalog) : Option Change :=
  match args with
  | "install" :: name :: _ =>
    if (catalog.find? name).any (·.installed) then none else catalog.installing? name
  | "uninstall" :: name :: _ =>
    if (catalog.find? name).any (!·.installed) then none else catalog.uninstalling? name
  | _ => none

namespace Session

theorem install_eq (name : String) (session : Session) :
    (session.install name).2 = session.changed (session.catalog.installing? name) := by
  unfold install Catalog.installing?
  cases hfind : session.catalog.find? name with
  | none => rfl
  | some package =>
    have hname := Catalog.name_of_find? hfind
    subst hname
    rfl

theorem uninstall_eq (name : String) (session : Session) :
    (session.uninstall name).2 = session.changed (session.catalog.uninstalling? name) := by
  unfold uninstall Catalog.uninstalling?
  cases session.catalog.find? name <;> rfl

variable (change : Option Change) (session : Session)

@[simp] theorem tree_changed : (session.changed change).tree = session.tree := by
  cases change <;> rfl

@[simp] theorem cwd_changed : (session.changed change).cwd = session.cwd := by
  cases change <;> rfl

@[simp] theorem history_changed : (session.changed change).history = session.history := by
  cases change <;> rfl

theorem table_changed_reached {session : Session} (h : session.table.Reached) :
    (session.changed change).table.Reached := by
  cases change with
  | none => exact h
  | some change => exact h.changed change

end Session

theorem brewInstall_eq (name : String) (session : Session) :
    (brewInstall name session).2 =
      session.changed (if (session.catalog.find? name).any (·.installed) then none
        else session.catalog.installing? name) := by
  unfold brewInstall
  cases hfind : session.catalog.find? name with
  | none => simp [Session.changed, Catalog.installing?, hfind]
  | some package =>
    cases hinstalled : package.installed with
    | true => simp [Session.changed, hinstalled]
    | false => simp [hinstalled, Session.install_eq]

theorem brewUninstall_eq (name : String) (session : Session) :
    (brewUninstall name session).2 =
      session.changed (if (session.catalog.find? name).any (!·.installed) then none
        else session.catalog.uninstalling? name) := by
  unfold brewUninstall
  cases hfind : session.catalog.find? name with
  | none => simp [Session.changed, Catalog.uninstalling?, hfind]
  | some package =>
    cases hinstalled : package.installed with
    | false => simp [Session.changed, hinstalled]
    | true => simp [hinstalled, Session.uninstall_eq]

/-- `brew` makes the change that its arguments ask for and leaves the rest of the session alone. -/
theorem brew_eq (args : List String) (session : Session) :
    (brew args session).2 = session.changed (brewChange? args session.catalog) := by
  unfold brew
  split
  · rfl
  · rfl
  · exact brewInstall_eq _ session
  · exact brewUninstall_eq _ session
  · rfl
  · next hinstall huninstall _ =>
    unfold brewChange?
    split
    · exact absurd rfl (hinstall _ _)
    · exact absurd rfl (huninstall _ _)
    · rfl

end Shell
end Shellbox
