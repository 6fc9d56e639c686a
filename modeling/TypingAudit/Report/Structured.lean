import TypingAudit.Report.Document
import TypingAudit.Summary.Run

/-!
The report for machines. Each file with findings has one entry in the order of names; when two results
carry the same name, the counts of the later one in that order are kept.
-/

namespace TypingAudit.Report

open Audit Summary

def countsFields (c : Tally) : Document :=
  .fields [("errors", .number c.errors), ("warnings", .number c.warnings), ("info", .number c.info)]

def issueFields (f : Finding) : Document :=
  .fields [("filePath", .text f.unitPath), ("line", .number f.line), ("column", .number f.column),
    ("message", .text f.message), ("severity", .text f.severity), ("code", .text f.code)]

def lastOfEach {α : Type} : List (String × α) → List (String × α)
  | [] => []
  | [entry] => [entry]
  | entry :: next :: rest =>
    if entry.1 = next.1 then lastOfEach (next :: rest) else entry :: lastOfEach (next :: rest)

def fileStats (perUnit : List (String × Tally)) : List (String × Tally) :=
  lastOfEach (perUnit.mergeSort fun a b => decide (a.1 ≤ b.1))

def structured (r : Run) : Document :=
  .fields [
    ("timestamp", .text r.timestamp),
    ("totalFiles", .number r.statistics.totalUnits),
    ("filesWithIssues", .number r.statistics.unitsWithIssues),
    ("issues", .list (r.findings.map issueFields)),
    ("summary", countsFields r.statistics.counts),
    ("fileStats", .fields ((fileStats r.statistics.perUnit).map fun e => (e.1, countsFields e.2)))]

def structuredText (r : Run) : String := String.ofList ((structured r).render 0 ++ ['\n'])

end TypingAudit.Report
