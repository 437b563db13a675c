import Shellbox.Keyed
import Shellbox.Package
/-!
# Commands and the command table

A command table holds the commands of a session by name. Built-in and system commands always
come before those that packages provide: `find?` looks at them first, and `listing` lets them
take the place of a package's command of the same name.

Of several packages with a command of one name, the one registered last has it.
-/

namespace Shellbox.Shell

/-- The tier of a command: built into the shell, telling about the system, or provided by a
package. -/
inductive Tier where
  | builtin
  | system
  | package
  deriving DecidableEq, Repr

/-- The word for a tier. -/
def Tier.label : Tier → String
  | builtin => "builtin"
  | system => "system"
  | package => "package"

/-- The commands that every session has. -/
inductive Builtin where
  | cat | touch | mkdir | rm | cp | mv | echo
  | help | clear
  | cd | ls | pwd
  | brew
  | grep | find
  | whoami | date | ps | kill | ping | curl | chmod | df | top | uname | hostname | uptime
  | tar | zip | unzip
  deriving DecidableEq, Repr

namespace Builtin

/-- All of them. -/
def all : List Builtin :=
  [cat, touch, mkdir, rm, cp, mv, echo, help, clear, cd, ls, pwd, brew, grep, find, whoami, date,
   ps, kill, ping, curl, chmod, df, top, uname, hostname, uptime, tar, zip, unzip]

/-- The name under which a command is called. -/
def name : Builtin → String
  | cat => "cat" | touch => "touch" | mkdir => "mkdir" | rm => "rm" | cp => "cp" | mv => "mv"
  | echo => "echo" | help => "help" | clear => "clear" | cd => "cd" | ls => "ls" | pwd => "pwd"
  | brew => "brew" | grep => "grep" | find => "find" | whoami => "whoami" | date => "date"
  | ps => "ps" | kill => "kill" | ping => "ping" | curl => "curl" | chmod => "chmod" | df => "df"
  | top => "top" | uname => "uname" | hostname => "hostname" | uptime => "uptime" | tar => "tar"
  | zip => "zip" | unzip => "unzip"

/-- What a command does, in a few words. -/
def description : Builtin → String
  | cat => "Print file contents"
  | touch => "Create empty file"
  | mkdir => "Create directories"
  | rm => "Remove files or directories"
  | cp => "Copy files and directories"
  | mv => "Move or rename files and directories"
  | echo => "Print text or write it to a file with >"
  | help => "Show available commands"
  | clear => "Clear the screen"
  | cd => "Change directory"
  | ls => "List directory contents"
  | pwd => "Print working directory"
  | brew => "Manage packages (see brew help)"
  | grep => "Search file contents"
  | find => "Search for files in a directory hierarchy"
  | whoami => "Print the current user"
  | date => "Print the current date and time"
  | ps => "List processes"
  | kill => "Terminate a process"
  | ping => "Send ICMP echo requests"
  | curl => "Transfer data from a URL"
  | chmod => "Change file permissions"
  | df => "Report disk usage"
  | top => "Display processes"
  | uname => "Print system information"
  | hostname => "Print the host name"
  | uptime => "Show how long the system has been running"
  | tar => "Archive files (simulated)"
  | zip => "Compress files (simulated)"
  | unzip => "Extract archives (simulated)"

/-- The tier of a command. -/
def tier : Builtin → Tier
  | pwd | df | top | uname | hostname | uptime | tar | zip | unzip => .system
  | _ => .builtin

end Builtin

/-- What a command does when it is called. -/
inductive Action where
  /-- One of the commands that every session has. -/
  | builtin (command : Builtin)
  /-- A command of a package, which is announced and not run. -/
  | provided (package : Package) (command : String)
  deriving DecidableEq, Repr

/-- A command as the table holds it. The history does not record every command. -/
structure Command where
  name : String
  action : Action
  tier : Tier
  description : String
  package : Option Package
  recorded : Bool
  deriving DecidableEq, Repr

/-- The command for one of those that every session has. Only clearing the screen is not
recorded. -/
def Builtin.command (builtin : Builtin) : Command :=
  { name := builtin.name, action := .builtin builtin, tier := builtin.tier,
    description := builtin.description, package := none, recorded := builtin != .clear }

/-- The command of a name that a package provides. -/
def Command.ofPackage (package : Package) (name : String) : Command :=
  { name, action := .provided package name, tier := .package,
    description := "Provided by " ++ package.name ++ " " ++ package.version,
    package := some package, recorded := true }

/-- The commands of a session by name: those that are always there and those of packages. -/
structure CommandTable where
  fixed : List (String × Command)
  provided : List (String × Command)
  deriving DecidableEq, Repr

namespace CommandTable

/-- The table without any command. -/
def empty : CommandTable := ⟨[], []⟩

/-- Puts a command under its name among those of its tier. -/
def add (command : Command) (table : CommandTable) : CommandTable :=
  match command.tier with
  | .package => { table with provided := Keyed.put command.name command table.provided }
  | _ => { table with fixed := Keyed.put command.name command table.fixed }

/-- Adds the commands of a package in the order of their names. -/
def register (package : Package) (table : CommandTable) : CommandTable :=
  package.commands.foldl (fun table name => table.add (.ofPackage package name)) table

/-- Takes out the commands that a package of the given name provides. -/
def unregister (name : String) (table : CommandTable) : CommandTable :=
  { table with
    provided := table.provided.filter fun (_, command) =>
      command.package.all (·.name != name) }

/-- The command of a name. -/
def find? (name : String) (table : CommandTable) : Option Command :=
  match table.fixed.lookup name with
  | some command => some command
  | none => table.provided.lookup name

/-- All commands in increasing order of their names. -/
def listing (table : CommandTable) : List Command :=
  let merged := Keyed.putAll table.fixed table.provided
  (Text.sortNames (Keyed.keys merged)).filterMap fun name => merged.lookup name

/-- The table with the commands that every session has. -/
def builtins : CommandTable :=
  Builtin.all.foldl (fun table builtin => table.add builtin.command) empty

end CommandTable

end Shellbox.Shell
