import Shellbox.Shell.Dispatch
/-!
# Completing a line

A line of two words of which the first is `cd` is completed if exactly one child of the working
directory has a name that starts with the second, letter case apart. Any other line stays as it
is.
-/

namespace Shellbox.Shell

/-- The names of the children of the working directory that start with a text, letter case
apart. -/
def Session.completions (start : String) (session : Session) : List String :=
  match session.cwdEntries with
  | .error _ => []
  | .ok inside =>
    inside.names.filter fun name =>
      (Text.lower start.toList).isPrefixOf (Text.lower name.toList)

/-- Completes a line. -/
def Session.complete (line : String) (session : Session) : String :=
  match lineWords line with
  | [first, start] =>
    if Text.lowerString first = "cd" then
      match session.completions start with
      | [name] => "cd " ++ name
      | _ => line
    else line
  | _ => line

end Shellbox.Shell
