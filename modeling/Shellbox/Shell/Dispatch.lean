import Shellbox.Shell.Brew
import Shellbox.Shell.FileCommands
import Shellbox.Shell.Host
import Shellbox.Shell.Listing
import Shellbox.Shell.Searching
import Shellbox.Text.Blank
/-!
# Running command lines

A command line is cut into words at blanks. The first word, in lower case, names the command; the
others are its arguments.

What a command may change is plain from its `Effect`: most commands only answer, some edit the
file tree, one moves the working directory, one manages packages and one clears the history.
`Session.run` adds the line with its prompt and the output of the command to the history.
-/

namespace Shellbox.Shell

/-- What a command may do to a session, and how. -/
inductive Effect where
  /-- Answers and changes nothing. -/
  | answer (reply : Session → List String → Except Failure String)
  /-- Edits the file tree at a time and from a working directory. -/
  | edit (change : Nat → Path → List String → Edit String)
  /-- Moves the working directory. -/
  | move (go : FileTree → Path → List String → Except Fault String × Path)
  /-- Changes the catalog and the command table. -/
  | manage (change : List String → Session → String × Session)
  /-- Clears the history. -/
  | clear

/-- The sections of the help text in order. -/
def helpSections : List (Tier × String) :=
  [(.builtin, "Available commands:"), (.system, "System information:"),
   (.package, "Package commands:")]

/-- The line of a command in the help text. -/
def helpLine (command : Command) : String :=
  if command.description = "" then "  " ++ command.name
  else "  " ++ command.name ++ " - " ++ command.description

/-- The lines of a section of the help text, none if no command belongs to it. -/
def helpSection (commands : List Command) (section_ : Tier × String) : List String :=
  match commands.filter (·.tier == section_.1) with
  | [] => []
  | members => section_.2 :: members.map helpLine

/-- What `help` shows: the sections that are not empty with empty lines between them. -/
def help (table : CommandTable) : String :=
  let sections := (helpSections.map (helpSection table.listing)).filter (!·.isEmpty)
  Text.joinWith "\n" (Text.joined [""] sections)

/-- The effect of a command that looks something up in the file tree from the working
directory. -/
def Effect.look (reply : FileTree → Path → List String → Except Fault String) : Effect :=
  .answer fun session args =>
    match reply session.tree session.cwd args with
    | .ok output => .ok output
    | .error cause => .error (.fault cause)

/-- The effect of a command that says something and cannot fail. -/
def Effect.say (reply : Session → List String → String) : Effect :=
  .answer fun session args => .ok (reply session args)

/-- The effect of each of the commands that every session has. -/
def Builtin.effect : Builtin → Effect
  | cat => .look Shell.cat
  | touch => .edit Shell.touch
  | mkdir => .edit Shell.mkdir
  | rm => .edit Shell.rm
  | cp => .edit Shell.cp
  | mv => .edit Shell.mv
  | echo => .edit Shell.echo
  | help => .say fun session _ => Shell.help session.table
  | clear => .clear
  | cd => .move Shell.cd
  | ls => .look Shell.ls
  | pwd => .say fun session _ => session.cwd.render
  | brew => .manage Shell.brew
  | grep => .answer fun session args => Shell.grep session.tree session.cwd args
  | find => .say fun session args => Shell.find session.tree session.cwd args
  | whoami => .say fun session _ => session.user
  | date => .say fun session _ => session.clock.format
  | ps => .say fun _ _ => processList
  | kill => .say fun _ args => Shell.kill args
  | ping => .say fun _ args => Shell.ping args
  | curl => .say fun _ args => Shell.curl args
  | chmod => .say fun session args => Shell.chmod session.tree session.cwd args
  | df => .say fun _ _ => diskUsage
  | top => .say fun _ _ => "Starting process monitor...\n" ++ processList
  | uname => .say fun session args => Shell.uname session.host args
  | hostname => .say fun session _ => session.host
  | uptime => .say fun _ _ => Shell.uptime
  | tar => .say fun _ _ => "Simulating archive operation..."
  | zip => .say fun _ _ => "Simulating compression..."
  | unzip => .say fun _ _ => "Simulating extraction..."

/-- The effect of an action. -/
def Action.effect : Action → Effect
  | builtin command => command.effect
  | provided package command => .say fun _ args => announce package command args

/-- Applies an effect to a session: the outcome and the session afterwards. -/
def Effect.apply (now : Nat) (args : List String) (session : Session) :
    Effect → Except Failure String × Session
  | answer reply => (reply session args, session)
  | edit change =>
    let (outcome, tree) := (change now session.cwd args).run.run session.tree
    (outcome.mapError Failure.fault, { session with tree })
  | move go =>
    let (outcome, cwd) := go session.tree session.cwd args
    (outcome.mapError Failure.fault, { session with cwd })
  | manage change =>
    let (output, session) := change args session
    (.ok output, session)
  | clear => (.ok "", { session with history := [] })

/-- Calls a command under a name with arguments: the output and the session afterwards. -/
def Command.call (now : Nat) (name : String) (args : List String) (command : Command)
    (session : Session) : String × Session :=
  let (outcome, session) := command.action.effect.apply now args session
  match outcome with
  | .ok output => (output, session)
  | .error failure => (failure.output name, session)

/-- The line without carriage returns and line feeds at its end. -/
def trimmedLine (line : String) : String :=
  String.ofList (Text.dropEnd (fun c => c = '\r' || c = '\n') line.toList)

/-- The words of a line. -/
def lineWords (line : String) : List String := (Text.words line.toList).map String.ofList

/-- What is said about a command that does not exist. -/
def notFound (name : String) : String :=
  "Command not found: " ++ name ++ ". Check that the package providing it is installed."

/-- Adds lines to the history. -/
def Session.record (lines : List String) (session : Session) : Session :=
  { session with history := session.history ++ lines }

/-- Runs a command line at a time: the lines that it adds to the history and the session
afterwards. -/
def Session.run (now : Nat) (line : String) (session : Session) : List String × Session :=
  let line := trimmedLine line
  let shown := session.prompt ++ " $ " ++ line
  match lineWords line with
  | [] => ([shown], session.record [shown])
  | first :: args =>
    let name := Text.lowerString first
    match session.table.find? name with
    | none =>
      let lines := [shown, notFound name]
      (lines, session.record lines)
    | some command =>
      let (output, session) := command.call now name args session
      if !command.recorded then ([], session)
      else
        let lines := if output = "" then [shown] else [shown, output]
        (lines, session.record lines)

end Shellbox.Shell
