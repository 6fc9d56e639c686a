import TypingAudit.Audit.Log
import TypingAudit.Storage.Home

/-!
Where a report goes: to the path on the command line, else to that in the environment, else to the default.
An empty path counts as none.
-/

namespace TypingAudit.Report

open Audit Storage

def nonEmpty (given : Option String) : Option String := given.filter (· != "")

/-- The path of a report, or `none` when it starts at a home that is not known. -/
def destination (homes : Homes) (assignments : List (String × String)) (given : Option String)
    (setting default : String) : Logged (Option Path) :=
  let choice : String × String :=
    match nonEmpty given, nonEmpty (assignments.lookup setting) with
    | some path, _ => ("command line", path)
    | none, some path => (setting, path)
    | none, none => ("default", default)
  match (Path.ofString choice.2).expandHome homes with
  | none => pure none
  | some path => do
    Logged.debug ("Report path " ++ path.text ++ " (from " ++ choice.1 ++ ")")
    return some path

end TypingAudit.Report
