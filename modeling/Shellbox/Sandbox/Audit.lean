/-!
# Events that a snippet must not cause

While a snippet runs, every event of the interpreter is looked at by name. An event is refused if
its name starts with one of the listed texts, which are modules with a full stop behind them or
whole names.
-/

namespace Shellbox.Sandbox

/-- The starts of the names of refused events. -/
def refusedStarts : List String :=
  ["open", "import", "os.", "subprocess.", "shutil.", "socket.", "ctypes.", "urllib.", "http.",
   "ftplib.", "smtplib.", "webbrowser.", "glob.", "tempfile.", "pty.", "fcntl.", "mmap.",
   "signal.", "resource.", "gc.", "code.__new__", "marshal.", "pickle.", "object.__getattr__",
   "sys.addaudithook", "sys.settrace", "sys.setprofile", "sys._getframe", "builtins.input"]

/-- Whether an event is refused. -/
def refuses (event : String) : Bool :=
  refusedStarts.any fun start => start.toList.isPrefixOf event.toList

/-- The wording of a refusal. -/
def refusalMessage (event : String) : String := event ++ " is not permitted in the sandbox"

end Shellbox.Sandbox
