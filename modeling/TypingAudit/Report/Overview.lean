import TypingAudit.Summary.Run

/-!
The few lines that every run prints at its end.
-/

namespace TypingAudit.Report

open Summary

def overviewLines (r : Run) : List String :=
  let s := r.statistics
  ["Type Safety Analysis Summary:",
    "Total files analyzed: " ++ toString s.totalUnits,
    "Files with issues: " ++ toString s.unitsWithIssues,
    "Total issues: " ++ toString s.counts.total,
    "  - Errors: " ++ toString s.counts.errors,
    "  - Warnings: " ++ toString s.counts.warnings,
    "  - Info: " ++ toString s.counts.info]

/-- The lines after a blank one, each with its line end. -/
def overviewText (r : Run) : String := String.join (("" :: overviewLines r).map (· ++ "\n"))

end TypingAudit.Report
