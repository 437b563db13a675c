import Shellbox.Shell.Session
/-!
# Managing packages

`brew` lists, searches, installs and uninstalls packages. The commands of packages are never
run: calling one says that it would be.
-/

namespace Shellbox.Shell

/-- What `brew help` shows. -/
def brewHelp : String :=
  Text.joinWith "\n"
    ["Available brew commands:",
     "- brew list: list installed packages",
     "- brew search <name>: search packages",
     "- brew install <name>: install a package",
     "- brew uninstall <name>: remove a package",
     "- brew help: show this help"]

/-- What `brew list` shows. -/
def brewList (catalog : Catalog) : String :=
  match catalog.installed with
  | [] => "No packages installed."
  | packages => Text.joinWith "\n" (packages.map fun p => p.name ++ " " ++ p.version)

/-- The packages with a text in their names. -/
def searchCatalog (query : String) (catalog : Catalog) : List Package :=
  catalog.filter fun package => Text.occursIn query.toList package.name.toList

/-- What `brew search` shows. -/
def brewSearch (query : String) (catalog : Catalog) : String :=
  match searchCatalog query catalog with
  | [] => "No matching packages found."
  | packages =>
    Text.joinWith "\n" (packages.map fun p => p.name ++ " " ++ p.version ++ " (" ++ p.status ++ ")")

/-- Installs a package that is not installed. -/
def brewInstall (name : String) (session : Session) : String × Session :=
  match session.catalog.find? name with
  | none => (Catalog.missingMessage name, session)
  | some package =>
    if package.installed then (name ++ " is already installed.", session)
    else
      ("Installing " ++ name ++ "...\nInstallation complete.\nAvailable commands: " ++
        Text.joinWith ", " package.commands, (session.install name).2)

/-- Uninstalls a package that is installed. -/
def brewUninstall (name : String) (session : Session) : String × Session :=
  match session.catalog.find? name with
  | none => (Catalog.missingMessage name, session)
  | some package =>
    if !package.installed then (name ++ " is not installed.", session)
    else ("Uninstalling " ++ name ++ "...\nUninstall complete.", (session.uninstall name).2)

/-- Manages packages. -/
def brew (args : List String) (session : Session) : String × Session :=
  match args with
  | "list" :: _ => (brewList session.catalog, session)
  | "search" :: name :: _ => (brewSearch name session.catalog, session)
  | "install" :: name :: _ => brewInstall name session
  | "uninstall" :: name :: _ => brewUninstall name session
  | "help" :: _ => (brewHelp, session)
  | _ => ("Unknown brew command. Type \"brew help\" to see the available commands.", session)

/-- What calling a command of a package says. -/
def announce (package : Package) (command : String) (args : List String) : String :=
  match args with
  | ["--version"] | ["-v"] | ["-V"] => command ++ " " ++ package.version
  | [] =>
    match command with
    | "node" => "Starting the Node.js REPL. (type .exit to quit)\n> "
    | "python" => "Starting the Python interpreter. (type exit() to quit)\n>>> "
    | _ => command ++ " (" ++ package.name ++ " " ++ package.version ++ ") is ready."
  | _ =>
    let shown := Text.joinWith " " args
    if command = package.name then
      "Running " ++ shown ++ " with " ++ package.name ++ " " ++ package.version ++ "..."
    else "Running " ++ command ++ " command: " ++ shown

end Shellbox.Shell
