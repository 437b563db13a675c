import Shellbox.CommandLine.Form
/-!
# The forms of the program

The program has three commands: `exec` runs command lines, `shell` holds a conversation, `run`
runs a snippet in the sandbox. The texts are laid out for 80 columns.
-/

namespace Shellbox.CommandLine

/-- Lines with line feeds behind them. -/
def unlines (lines : List String) : String := String.join (lines.map (· ++ "\n"))

/-- The option that asks for help. -/
def helpOption : OptionForm := ⟨["-h", "--help"], .help⟩

/-- The option for how much is logged. -/
def logOption : OptionForm := ⟨["--log-level"], .choice ["DEBUG", "INFO", "WARNING", "ERROR"]⟩

/-- The option for the deadline of a snippet. -/
def timeoutOption : OptionForm := ⟨["--timeout-ms"], .number⟩

/-- The option for the memory of a snippet. -/
def memoryOption : OptionForm := ⟨["--memory-mb"], .number⟩

/-- The log levels as they are listed in a usage text. -/
def logLevels : String := "\x7bDEBUG,INFO,WARNING,ERROR\x7d"

/-- The help on the options that every command has. -/
def commonDetails : List String :=
  ["options:",
   "  -h, --help            show this help message and exit",
   "  --log-level " ++ logLevels,
   "                        Logging verbosity written to stderr."]

/-- The names of the commands in order. -/
def commandNames : List String := ["exec", "shell", "run"]

/-- The form of the program. -/
def mainForm : Form where
  program := "termsim"
  usage := "usage: termsim [-h] \x7bexec,shell,run\x7d ..."
  details := unlines
    ["positional arguments:",
     "  \x7bexec,shell,run\x7d",
     "    exec            Run command lines (separated by ';')",
     "    shell           Start an interactive shell",
     "    run             Execute a Python snippet in the sandbox",
     "",
     "options:",
     "  -h, --help        show this help message and exit"]
  options := [helpOption]
  operand := some (.command "command_name")

/-- The form of the command that runs command lines. -/
def execForm : Form where
  program := "termsim exec"
  usage := "usage: termsim exec [-h] [--log-level " ++ logLevels ++ "] command"
  details := unlines
    (["positional arguments:", "  command               Command string to execute", ""] ++
      commonDetails)
  options := [helpOption, logOption]
  operand := some (.one "command")

/-- The form of the command that holds a conversation. -/
def shellForm : Form where
  program := "termsim shell"
  usage := "usage: termsim shell [-h] [--log-level " ++ logLevels ++ "]"
  details := unlines commonDetails
  options := [helpOption, logOption]
  operand := none

/-- The form of the command that runs a snippet. -/
def runForm : Form where
  program := "termsim run"
  usage := Text.joinWith "\n"
    ["usage: termsim run [-h] [--log-level " ++ logLevels ++ "]",
     "                   [--timeout-ms TIMEOUT_MS] [--memory-mb MEMORY_MB]",
     "                   file"]
  details := unlines
    (["positional arguments:", "  file                  Snippet file, or - for stdin", ""] ++
      commonDetails ++ ["  --timeout-ms TIMEOUT_MS", "  --memory-mb MEMORY_MB"])
  options := [helpOption, logOption, timeoutOption, memoryOption]
  operand := some (.one "file")

end Shellbox.CommandLine
