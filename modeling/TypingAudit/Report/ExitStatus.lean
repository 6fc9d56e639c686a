import TypingAudit.Audit.Log
import TypingAudit.Summary.Run

/-!
How a run ends for the process: in continuous integration a run with errors fails it.
-/

namespace TypingAudit.Report

open Audit Summary

def exitStatus (ci : Bool) (r : Run) : Logged Nat :=
  let errors := toString r.statistics.counts.errors
  if r.passed then pure 0
  else if ci then do
    Logged.error ("Type safety gate failed: " ++ errors ++ " error finding(s)")
    return 1
  else do
    Logged.debug (errors ++ " error finding(s); not gating outside CI mode")
    return 0

end TypingAudit.Report
