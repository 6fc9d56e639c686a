import TypingAudit.Proofs.Summary.Conservation
import TypingAudit.Report.Markdown
import TypingAudit.Report.Overview
import TypingAudit.Report.Structured

/-!
The figures that the reports show. The report for machines, the report for readers and the lines at the end of a
run all give the numbers of findings of each severity, and the entries of the single files add up to them as
long as no two files have the same name.
-/

namespace TypingAudit.Report

open Audit Summary

namespace Document

def field? : Document → String → Option Document
  | .fields entries, name => entries.lookup name
  | _, _ => none

def number? (d : Document) (name : String) : Option Int :=
  match d.field? name with
  | some (.number value) => some value
  | _ => none

end Document

theorem lastOfEach_of_nodup {α : Type} {entries : List (String × α)} (distinct : (entries.map Prod.fst).Nodup) :
    lastOfEach entries = entries := by
  fun_induction lastOfEach entries with
  | case1 => rfl
  | case2 entry => rfl
  | case3 entry next rest same ih =>
    simp [same] at distinct
  | case4 entry next rest different ih =>
    rw [ih (List.nodup_cons.1 distinct).2]

/-- With distinct names the files keep their counts, and only their order changes. -/
theorem fileStats_perm {perUnit : List (String × Tally)} (distinct : (perUnit.map Prod.fst).Nodup) :
    (fileStats perUnit).Perm perUnit := by
  have sorted := List.mergeSort_perm perUnit fun a b => decide (a.1 ≤ b.1)
  rw [fileStats, lastOfEach_of_nodup ((sorted.map Prod.fst).nodup_iff.2 distinct)]
  exact sorted

section RunOf

variable (timestamp : String) (results : List UnitResult)

variable {results}

theorem nodup_perUnit (distinct : (results.map UnitResult.unitPath).Nodup) :
    ((runOf timestamp results).statistics.perUnit.map Prod.fst).Nodup :=
  ((List.mergeSort_perm (fileCounts results) _).map Prod.fst).nodup_iff.2 (nodup_fileCounts distinct)

theorem length_perUnit :
    (runOf timestamp results).statistics.perUnit.length =
      (runOf timestamp results).statistics.unitsWithIssues :=
  List.length_mergeSort _

theorem overviewSection_runOf (known : firstUnknown? (allFindings results) = none) :
    overviewSection (runOf timestamp results) = headed "Overview" [
      "- **Generated:** " ++ timestamp,
      "- **Total files analyzed:** " ++ toString results.length,
      "- **Files with issues:** " ++ toString (results.countP UnitResult.hasFindings),
      "- **Total issues:** " ++ toString (allFindings results).length,
      "- **Errors:** " ++ toString (occurrences .error (allFindings results)),
      "- **Warnings:** " ++ toString (occurrences .warning (allFindings results)),
      "- **Info:** " ++ toString (occurrences .info (allFindings results)),
      "- **Status:** " ++ (if (runOf timestamp results).passed then "PASSED" else "FAILED")] := by
  simp only [overviewSection, runOf, length_fileCounts, total_countsOf known]
  rw [countsOf_eq]
  rfl

end RunOf

end TypingAudit.Report
