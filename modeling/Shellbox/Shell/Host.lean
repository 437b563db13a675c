import Shellbox.Shell.Session
/-!
# Commands about the system

None of these commands does anything: they give fixed texts, texts of the session, or say what a
real tool would have tried.
-/

namespace Shellbox.Shell

namespace Moment

/-- The days of the months of a year that is no leap year. -/
def monthLengths : List Nat := [31, 28, 31, 30, 31, 30, 31, 31, 30, 31, 30, 31]

/-- Whether a year has a leap day. -/
def isLeap (year : Nat) : Bool := year % 4 == 0 && (year % 100 != 0 || year % 400 == 0)

/-- The number of the day, counted from the first day of the year one, which was a Monday. -/
def dayNumber (moment : Moment) : Nat :=
  let y := moment.year - 1
  let monthDays := (monthLengths.take (moment.month - 1)).foldl (· + ·) 0
  365 * y + y / 4 - y / 100 + y / 400 + monthDays +
    (if moment.month > 2 && isLeap moment.year then 1 else 0) + (moment.day - 1)

/-- The short name of the day of the week. -/
def dayName (moment : Moment) : String :=
  ["Mon", "Tue", "Wed", "Thu", "Fri", "Sat", "Sun"].getD (moment.dayNumber % 7) ""

/-- The short name of the month. -/
def monthName (moment : Moment) : String :=
  ["Jan", "Feb", "Mar", "Apr", "May", "Jun", "Jul", "Aug", "Sep", "Oct", "Nov", "Dec"].getD
    (moment.month - 1) ""

/-- A number of at most two digits with a zero in front if it has one. -/
def twoDigits (n : Nat) : String := if n < 10 then "0" ++ toString n else toString n

/-- The moment as text, such as `Tue Jan 02 03:04:05 2024`. -/
def format (moment : Moment) : String :=
  moment.dayName ++ " " ++ moment.monthName ++ " " ++ twoDigits moment.day ++ " " ++
    twoDigits moment.hour ++ ":" ++ twoDigits moment.minute ++ ":" ++ twoDigits moment.second ++
    " " ++ toString moment.year

example : format ⟨2024, 1, 2, 3, 4, 5⟩ = "Tue Jan 02 03:04:05 2024" := by decide +kernel

end Moment

/-- The arguments that do not start with a hyphen. -/
def operands (args : List String) : List String :=
  args.filter fun arg => arg.toList.head? != some '-'

/-- Says which processes would be ended. -/
def kill (args : List String) : String :=
  match operands args with
  | [] => "kill: usage: kill [-signal] pid"
  | pids => Text.joinWith "\n" (pids.map fun pid =>
      "Attempting to terminate process " ++ pid ++ "...")

/-- Says that a host has answered. -/
def ping (args : List String) : String :=
  match (operands args).getLast? with
  | none => "ping: usage: ping host"
  | some host =>
    "PING " ++ host ++ " (127.0.0.1): 56 data bytes\n" ++
      "64 bytes from 127.0.0.1: icmp_seq=0 ttl=64 time=0.037 ms"

/-- Says where a request would be sent. -/
def curl (args : List String) : String :=
  match (operands args).getLast? with
  | none => "curl: try 'curl <url>'"
  | some url => "Sending request to " ++ url ++ "..."

/-- Whether a text is a file mode: three or four octal digits, or users, a sign and rights. -/
def isMode (mode : List Char) : Bool :=
  let isOctal := (mode.length == 3 || mode.length == 4) && mode.all fun c => '0' ≤ c && c ≤ '7'
  isOctal ||
    match mode.dropWhile ("ugoa".toList.contains ·) with
    | sign :: rights =>
      "-+=".toList.contains sign && !rights.isEmpty && rights.all ("rwxX".toList.contains ·)
    | [] => false

/-- Says that the mode of a file would be changed. -/
def chmod (tree : FileTree) (cwd : Path) (args : List String) : String :=
  match args with
  | mode :: target :: _ =>
    if !isMode mode.toList then "chmod: invalid mode: '" ++ mode ++ "'"
    else if !tree.holds (Path.readFrom cwd target) then
      "chmod: " ++ target ++ ": No such file or directory"
    else "Changing permissions of " ++ target ++ " to " ++ mode ++ "..."
  | _ => "chmod: usage: chmod <mode> <file>"

/-- The list of processes. -/
def processList : String := "PID TTY TIME CMD\n1234 ttys000 0:00.12 -zsh"

/-- The use of the disks. -/
def diskUsage : String := "Filesystem Size Used Avail Use%\n/ 499G 374G 125G 75%"

/-- Says which system this is. -/
def uname (host : String) (args : List String) : String :=
  if args.contains "-a" then
    "Darwin " ++ host ++ " 23.2.0 Darwin Kernel Version 23.2.0 arm64"
  else "Darwin"

/-- How long the system has been running. -/
def uptime : String := "up 3 days, 4:12, 1 user, load averages: 1.52 1.61 1.70"

end Shellbox.Shell
