import Shellbox.FileTree.Edit
import Shellbox.Pattern.Refusal
import Shellbox.Shell.Command
/-!
# Sessions

A session is one user's shell: a file tree, a catalog of packages, the command table, the
working directory, the history, and what the commands that tell about the system say.

| Function | What it gives or does |
|---|---|
| `Session.start` | a session at the root with the commands of the installed packages |
| `Session.prompt` | the prompt, which shows the working directory |
| `Session.holdsCwd` | whether removing a path would take the working directory with it |
| `Session.install`, `Session.uninstall` | change the catalog and the command table together |
-/

namespace Shellbox.Shell

/-- A date and a time of day. -/
structure Moment where
  year : Nat
  month : Nat
  day : Nat
  hour : Nat
  minute : Nat
  second : Nat
  deriving DecidableEq, Repr

/-- The state of a shell session. -/
structure Session where
  tree : FileTree
  catalog : Catalog
  table : CommandTable
  cwd : Path
  history : List String
  user : String
  host : String
  clock : Moment
  deriving DecidableEq, Repr

/-- The causes for which a command fails as a whole. -/
inductive Failure where
  /-- An operation on the file tree failed. -/
  | fault (cause : Fault)
  /-- There is no package of the name. -/
  | unknownPackage (name : String)
  /-- A pattern passes a limit of its reader. -/
  | patternLimit (cause : Pattern.Cause)
  deriving DecidableEq, Repr

/-- What is shown when a command of the given name fails as a whole. -/
def Failure.output (name : String) : Failure → String
  | fault cause => name ++ ": " ++ cause.message
  | unknownPackage package => name ++ ": " ++ Catalog.missingMessage package
  | patternLimit cause => name ++ " failed: " ++ cause.message

namespace Session

/-- The file tree of a session that is not told otherwise. -/
def homeTree : FileTree :=
  let edits : Edit Unit := do
    let _ ← Edit.mkdir 0 ["Documents"] false false
    let _ ← Edit.writeFile 0 ["Documents", "notes.txt"] "This is a note." false
    let _ ← Edit.mkdir 0 ["Downloads"] false false
  (edits.run.run FileTree.empty).2

/-- A session at its start. -/
def start (tree : FileTree) (catalog : Catalog) (user host : String) (clock : Moment) : Session :=
  { tree, catalog, user, host, clock, cwd := [], history := [],
    table := catalog.installed.foldl (fun table package => table.register package)
      CommandTable.builtins }

/-- The session that is not told otherwise. -/
def default : Session :=
  start homeTree Catalog.default "current-user" "termsim" ⟨2024, 1, 2, 3, 4, 5⟩

/-- The prompt: a tilde and the working directory. -/
def prompt (session : Session) : String :=
  "~" ++ String.join (session.cwd.map ("/" ++ ·))

/-- The children of the working directory. -/
def cwdEntries (session : Session) : Except Fault Entries := session.tree.directory session.cwd

/-- The path that a text means in the working directory. -/
def locate (session : Session) (text : String) : Path := Path.readFrom session.cwd text

/-- Whether the working directory lies at or below the path that a text means. -/
def holdsCwd (cwd : Path) (text : String) : Bool := Path.within (Path.readFrom cwd text) cwd

/-- Installs the package of a name and registers its commands. -/
def install (name : String) (session : Session) : Except Failure Package × Session :=
  match session.catalog.find? name with
  | none => (.error (.unknownPackage name), session)
  | some package =>
    let package := { package with installed := true }
    (.ok package,
      { session with
        catalog := session.catalog.setInstalled true name
        table := session.table.register package })

/-- Uninstalls the package of a name and takes its commands out of the table. -/
def uninstall (name : String) (session : Session) : Except Failure Package × Session :=
  match session.catalog.find? name with
  | none => (.error (.unknownPackage name), session)
  | some package =>
    (.ok { package with installed := false },
      { session with
        catalog := session.catalog.setInstalled false name
        table := session.table.unregister name })

end Session

end Shellbox.Shell
