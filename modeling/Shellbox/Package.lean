import Shellbox.Text.Order
/-!
# Packages

A package has a name, a version and the names of the commands that it provides. A catalog holds
packages in order, one per name, and knows which of them are installed. Installing and
uninstalling change nothing but that.
-/

namespace Shellbox

/-- A package. The names of its commands are in increasing order, each once. -/
structure Package where
  name : String
  version : String
  installed : Bool
  commands : List String
  deriving DecidableEq, Repr

/-- The package with the given command names in any order. -/
def Package.make (name version : String) (installed : Bool) (commands : List String) : Package :=
  ⟨name, version, installed, Text.sortNames commands⟩

/-- The words for whether a package is installed. -/
def Package.status (package : Package) : String :=
  if package.installed then "installed" else "not installed"

/-- Packages in order. -/
abbrev Catalog := List Package

namespace Catalog

/-- Puts a package in the place of the one of its name, or behind all others. -/
def put (package : Package) : Catalog → Catalog
  | [] => [package]
  | first :: rest =>
    if first.name = package.name then package :: rest else first :: put package rest

/-- The catalog of a list of packages. Of several with one name it has the last, in the place of
the first. -/
def ofPackages (packages : List Package) : Catalog :=
  packages.foldl (fun catalog package => catalog.put package) []

/-- The package of a name. -/
def find? (name : String) (catalog : Catalog) : Option Package :=
  List.find? (fun package => package.name = name) catalog

/-- The installed packages. -/
def installed (catalog : Catalog) : List Package := catalog.filter (·.installed)

/-- The wording when there is no package of a name. -/
def missingMessage (name : String) : String := "Package not found: " ++ name

/-- Marks the package of a name as installed or not. -/
def setInstalled (value : Bool) (name : String) (catalog : Catalog) : Catalog :=
  catalog.map fun package =>
    if package.name = name then { package with installed := value } else package

/-- The packages of a session that is not told otherwise. -/
def default : Catalog :=
  [.make "node" "20.11.0" true ["node", "npm"],
   .make "python" "3.11.0" true ["python", "pip"],
   .make "git" "2.43.0" true ["git"],
   .make "go" "1.22.0" false ["go", "gofmt"],
   .make "rust" "1.75.0" false ["rustc", "cargo"]]

end Catalog

end Shellbox
