import TypingAudit.Summary.Counts
import TypingAudit.Summary.Ranking

/-!
What a run comes to: all findings in the order of the files, and figures about them. Files with findings
stand in the order of their totals, and those with the same total in the order of the run.
-/

namespace TypingAudit.Summary

open Audit

def codesShown : Int := 10

structure Statistics where
  totalUnits : Nat
  unitsWithIssues : Nat
  counts : Tally
  topCodes : List (String × Nat)
  perUnit : List (String × Tally)
deriving DecidableEq, Repr

structure Run where
  timestamp : String
  statistics : Statistics
  findings : List Finding
deriving DecidableEq, Repr

namespace Run

def passed (r : Run) : Bool := r.statistics.counts.errors == 0

end Run

def allFindings (results : List UnitResult) : List Finding := results.flatMap UnitResult.findings

def unitCounts (results : List UnitResult) :
    Except UnknownSeverity (List (String × Tally)) :=
  (results.filter UnitResult.hasFindings).mapM fun r =>
    (tally r.findings).map fun counts => (r.unitPath, counts)

def byTotal (perUnit : List (String × Tally)) : List (String × Tally) :=
  perUnit.mergeSort fun a b => decide (b.2.total ≤ a.2.total)

def statistics (results : List UnitResult) : Except UnknownSeverity Statistics := do
  let perUnit ← unitCounts results
  let counts ← tally (allFindings results)
  return {
    totalUnits := results.length
    unitsWithIssues := perUnit.length
    counts
    topCodes := mostFrequent codesShown (allFindings results)
    perUnit := byTotal perUnit }

def summarize (timestamp : String) (results : List UnitResult) : Except UnknownSeverity Run :=
  (statistics results).map fun s => ⟨timestamp, s, allFindings results⟩

end TypingAudit.Summary
