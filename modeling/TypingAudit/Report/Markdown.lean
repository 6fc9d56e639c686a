import TypingAudit.Summary.Run

/-!
The report for readers, in Markdown. A text in a table cell keeps to its cell: bars are escaped and line
ends become blanks.
-/

namespace TypingAudit.Report

open Audit Summary

def unitsShown : Nat := 10

def advice : List String := [
  "Run the type checker in strict mode (`mypy --strict` or pyright `strict`) so implicit `Any` is rejected at build time.",
  "Annotate every parameter and return value; use `Any` explicitly only where dynamism is intended.",
  "Replace `typing.cast()` with `isinstance()` narrowing or `TypeGuard` helpers.",
  "Replace `assert x is not None` with an explicit check that raises, since asserts are stripped under `-O`.",
  "Validate and parse external input instead of coercing it with `int()`, `float()`, `str()` or `bool()`.",
  "Guard indexed access with a membership or bounds check, or use `.get()` with a default."]

def cellChar (c : Char) : List Char :=
  if c = '|' then ['\\', '|'] else if c = '\n' then [' '] else [c]

def tableCell (s : String) : String := String.ofList (s.toList.flatMap cellChar)

def row (cells : List String) : String := "| " ++ " | ".intercalate cells ++ " |"

def ruler (columns : Nat) : String := row (List.replicate columns "---")

/-- A section: its heading and body, with a blank line after each. -/
def headed (title : String) (body : List String) : List String :=
  ("## " ++ title) :: "" :: body ++ [""]

/-- A table under its header, or a single line in place of one without rows. -/
def table (header : List String) (absent : String) (rows : List (List String)) : List String :=
  if rows.isEmpty then [absent] else row header :: ruler header.length :: rows.map row

def overviewSection (r : Run) : List String :=
  let s := r.statistics
  headed "Overview" [
    "- **Generated:** " ++ r.timestamp,
    "- **Total files analyzed:** " ++ toString s.totalUnits,
    "- **Files with issues:** " ++ toString s.unitsWithIssues,
    "- **Total issues:** " ++ toString s.counts.total,
    "- **Errors:** " ++ toString s.counts.errors,
    "- **Warnings:** " ++ toString s.counts.warnings,
    "- **Info:** " ++ toString s.counts.info,
    "- **Status:** " ++ (if r.passed then "PASSED" else "FAILED")]

def criticalRow (f : Finding) : List String :=
  [tableCell f.unitPath, toString f.line, toString f.column, f.code, tableCell f.message]

def criticalSection (r : Run) : List String :=
  headed "Critical Issues" (table ["File", "Line", "Column", "Code", "Message"]
    "No critical issues found." ((r.findings.filter (·.severity == Severity.error)).map criticalRow))

def patternsSection (r : Run) : List String :=
  headed "Common Issue Patterns" (table ["Code", "Occurrences"] "No issues found."
    (r.statistics.topCodes.map fun e => [e.1, toString e.2]))

def fileRow (entry : String × Tally) : List String :=
  [tableCell entry.1, toString entry.2.total, toString entry.2.errors, toString entry.2.warnings,
    toString entry.2.info]

def filesSection (r : Run) : List String :=
  headed "Files with Most Issues" (table ["File", "Total", "Errors", "Warnings", "Info"]
    "No files with issues." ((r.statistics.perUnit.take unitsShown).map fileRow))

def recommendationsSection : List String :=
  headed "Recommendations" ((advice.zipIdx 1).map fun e => toString e.2 ++ ". " ++ e.1)

def markdownLines (r : Run) : List String :=
  "# Type Safety Report" :: "" :: overviewSection r ++ criticalSection r ++ patternsSection r
    ++ filesSection r ++ recommendationsSection

def markdownText (r : Run) : String := "\n".intercalate (markdownLines r)

end TypingAudit.Report
