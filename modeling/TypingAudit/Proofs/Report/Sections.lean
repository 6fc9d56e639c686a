import TypingAudit.Proofs.Report.Lines
import TypingAudit.Proofs.Report.Totals
import TypingAudit.Proofs.Summary.Ranking

/-!
The report for readers keeps its structure, whatever the paths and messages in it say. It has its six headings and no
others, its tables have the rows that they should, and what its sections say of a run fits together: the errors, the
numbers of the codes, the files and the status.
-/

namespace TypingAudit.Report

open Audit Summary

/-- What is read in the lines of a report on some results. -/
structure ReadsAsReport (results : List UnitResult) (lines : List String) : Prop where
  headings : lines.filter isHeading = ["# Type Safety Report", "## Overview", "## Critical Issues",
    "## Common Issue Patterns", "## Files with Most Issues", "## Recommendations"]
  critical : rowsIn (sectionBelow "## Critical Issues" lines) =
    ((allFindings results).filter (·.severity == Severity.error)).map fun f => row (criticalRow f)
  uncritical : "No critical issues found." ∈ sectionBelow "## Critical Issues" lines ↔
    ∀ f ∈ allFindings results, f.severity ≠ Severity.error
  patterns : ∃ counts : List Nat,
    (rowsIn (sectionBelow "## Common Issue Patterns" lines)).map secondNumber? = counts.map some ∧
      counts.sum = (allFindings results).length
  total : itemValues "Total issues" (sectionBelow "## Overview" lines) = [toString (allFindings results).length]
  files : (rowsIn (sectionBelow "## Files with Most Issues" lines)).length =
    min 10 (results.countP UnitResult.hasFindings)
  withIssues : itemValues "Files with issues" (sectionBelow "## Overview" lines) =
    [toString (results.countP UnitResult.hasFindings)]
  status : itemValues "Status" (sectionBelow "## Overview" lines) =
    [if rowsIn (sectionBelow "## Critical Issues" lines) = [] then "PASSED" else "FAILED"]

structure Plain (body : List String) : Prop where
  oneLine : ∀ line ∈ body, OneLine line
  unheaded : ∀ line ∈ body, isHeading line = false

theorem plain_table {header : List String} {absent : String} {rows : List (List String)}
    (titles : ∀ cell ∈ header, OneLine cell) (one : OneLine absent) (plain : isHeading absent = false)
    (each : ∀ cells ∈ rows, ∀ cell ∈ cells, OneLine cell) : Plain (table header absent rows) :=
  ⟨oneLine_table one titles each, isHeading_table plain⟩

section Codes

variable {findings : List Finding}

theorem plain_code {code : String} (listed : code ∈ Code.all) : OneLine code ∧ '|' ∉ code.toList := by
  fin_cases listed <;> exact ⟨not_mem_ofList (by decide), not_mem_ofList (by decide)⟩

theorem mostFrequent_of_listed (listed : ∀ f ∈ findings, f.code ∈ Code.all) :
    mostFrequent codesShown findings = ranked findings := by
  have within : (findings.map Finding.code).eraseDups ⊆ Code.all := by
    intro code member
    obtain ⟨f, found, rfl⟩ := List.mem_map.1 (List.mem_eraseDups.1 member)
    exact listed f found
  have few : (ranked findings).length ≤ 7 := by
    rw [(ranked_perm findings).length_eq, ← List.length_map Prod.fst, map_fst_codeCounts]
    exact ((nodup_eraseDups _).subperm within).length_le
  rw [mostFrequent_eq, List.take_of_length_le]
  rw [if_pos (by decide)]
  exact few.trans (by decide)

theorem listed_of_mem_ranked (listed : ∀ f ∈ findings, f.code ∈ Code.all) {entry : String × Nat}
    (member : entry ∈ ranked findings) : entry.1 ∈ Code.all := by
  obtain ⟨⟨f, found, same⟩, -⟩ := ((isRanking_ranked findings).counted entry.1 entry.2).1 member
  rw [← same]
  exact listed f found

theorem sum_ranked (findings : List Finding) : ((ranked findings).map Prod.snd).sum = findings.length := by
  rw [((ranked_perm findings).map Prod.snd).sum_eq, sum_codeCounts]

end Codes

section Overview

variable {timestamp : String} {results : List UnitResult}

def overviewFigures (results : List UnitResult) : List (String × Nat) := [
  ("Total files analyzed", results.length),
  ("Files with issues", results.countP UnitResult.hasFindings),
  ("Total issues", (allFindings results).length),
  ("Errors", occurrences .error (allFindings results)),
  ("Warnings", occurrences .warning (allFindings results)),
  ("Info", occurrences .info (allFindings results))]

def overviewItems (timestamp : String) (results : List UnitResult) : List (String × String) :=
  ("Generated", timestamp) :: ((overviewFigures results).map fun figure => (figure.1, toString figure.2)) ++
    [("Status", if (runOf timestamp results).passed then "PASSED" else "FAILED")]

theorem overviewSection_items (known : firstUnknown? (allFindings results) = none) :
    overviewSection (runOf timestamp results) = headed "Overview" (itemLines (overviewItems timestamp results)) :=
  overviewSection_runOf timestamp known

theorem labels_overviewItems :
    ∀ item ∈ overviewItems timestamp results, OneLine item.1 ∧ ':' ∉ item.1.toList := by
  have each : ∀ label ∈ ["Generated", "Total files analyzed", "Files with issues", "Total issues", "Errors", "Warnings",
      "Info", "Status"], OneLine label ∧ ':' ∉ label.toList := by decide
  intro item member
  exact each item.1 (List.mem_map_of_mem member)

theorem oneLine_overviewItems (one : OneLine timestamp) :
    ∀ item ∈ overviewItems timestamp results, OneLine item.1 ∧ OneLine item.2 := by
  intro item member
  refine ⟨(labels_overviewItems item member).1, ?_⟩
  rcases List.mem_append.1 member with first | last
  · rcases List.mem_cons.1 first with rfl | inside
    · exact one
    · obtain ⟨figure, -, rfl⟩ := List.mem_map.1 inside
      exact oneLine_toString_nat figure.2
  · rw [List.mem_singleton.1 last]
    dsimp only
    split <;> decide

theorem itemValues_overview {label : String} (plain : ':' ∉ label.toList) :
    itemValues label ("" :: itemLines (overviewItems timestamp results) ++ [""]) =
      ((overviewItems timestamp results).filter fun item => item.1 == label).map Prod.snd := by
  rw [itemValues_enclosed, itemValues_itemLines plain fun item member => (labels_overviewItems item member).2]

end Overview

section Bodies

theorem plain_critical (r : Run) (listed : ∀ f ∈ r.findings, f.code ∈ Code.all) :
    ∃ body, criticalSection r = headed "Critical Issues" body ∧ Plain body ∧
      rowsIn ("" :: body ++ [""]) =
        (r.findings.filter (·.severity == Severity.error)).map (fun f => row (criticalRow f)) ∧
      ("No critical issues found." ∈ "" :: body ++ [""] ↔ ∀ f ∈ r.findings, f.severity ≠ Severity.error) := by
  refine ⟨_, rfl, plain_table (by decide) (by decide) (by decide) ?_, ?_, ?_⟩
  · intro cells member
    obtain ⟨f, found, rfl⟩ := List.mem_map.1 member
    exact oneLine_criticalRow (plain_code (listed f (List.mem_filter.1 found).1)).1
  · rw [rowsIn_table _ _ (by decide), List.map_map]
    rfl
  · rw [absent_mem_table _ _ (by decide) (by decide), List.map_eq_nil_iff, List.filter_eq_nil_iff]
    simp

theorem plain_patterns (r : Run) (listed : ∀ entry ∈ r.statistics.topCodes, entry.1 ∈ Code.all) :
    ∃ body, patternsSection r = headed "Common Issue Patterns" body ∧ Plain body ∧
      (rowsIn ("" :: body ++ [""])).map secondNumber? = (r.statistics.topCodes.map Prod.snd).map some := by
  refine ⟨_, rfl, plain_table (by decide) (by decide) (by decide) ?_, ?_⟩
  · intro cells member
    obtain ⟨entry, shown, rfl⟩ := List.mem_map.1 member
    intro cell inside
    simp only [List.mem_cons, List.not_mem_nil, or_false] at inside
    rcases inside with rfl | rfl
    · exact (plain_code (listed entry shown)).1
    · exact oneLine_toString_nat _
  · rw [rowsIn_table _ _ (by decide), List.map_map, List.map_map, List.map_map]
    apply List.map_congr_left
    intro entry shown
    exact secondNumber?_row (plain_code (listed entry shown)).2 entry.2

theorem plain_files (r : Run) :
    ∃ body, filesSection r = headed "Files with Most Issues" body ∧ Plain body ∧
      (rowsIn ("" :: body ++ [""])).length = min 10 r.statistics.perUnit.length := by
  refine ⟨_, rfl, plain_table (by decide) (by decide) (by decide) ?_, ?_⟩
  · intro cells member
    obtain ⟨entry, -, rfl⟩ := List.mem_map.1 member
    exact oneLine_fileRow entry
  · rw [rowsIn_table _ _ (by decide), List.length_map, List.length_map, List.length_take]
    rfl

theorem oneLine_advice : ∀ text ∈ advice, OneLine text := by
  intro text listed
  fin_cases listed <;> exact not_mem_ofList (by decide)

theorem plain_recommendations :
    ∃ body, recommendationsSection = headed "Recommendations" body ∧ Plain body := by
  refine ⟨_, rfl, ?_, ?_⟩
  · intro line member
    obtain ⟨entry, numbered, rfl⟩ := List.mem_map.1 member
    have text := oneLine_advice entry.1 (List.fst_mem_of_mem_zipIdx numbered)
    exact ((oneLine_toString_nat entry.2).append (by decide)).append text
  · intro line member
    obtain ⟨entry, -, rfl⟩ := List.mem_map.1 member
    rw [String.append_assoc]
    exact beginsWith_toString_append (by decide) entry.2 _

end Bodies

section Whole

def titled (overview critical patterns files recommendations : List String) : List (String × List String) :=
  [("Overview", overview), ("Critical Issues", critical), ("Common Issue Patterns", patterns),
    ("Files with Most Issues", files), ("Recommendations", recommendations)]

variable {r : Run} {overview critical patterns files recommendations : List String}

theorem markdownLines_titled (first : overviewSection r = headed "Overview" overview)
    (second : criticalSection r = headed "Critical Issues" critical)
    (third : patternsSection r = headed "Common Issue Patterns" patterns)
    (fourth : filesSection r = headed "Files with Most Issues" files)
    (fifth : recommendationsSection = headed "Recommendations" recommendations) :
    markdownLines r =
      ["# Type Safety Report", ""] ++ written (titled overview critical patterns files recommendations) := by
  rw [markdownLines, first, second, third, fourth, fifth]
  simp [written, titled]

variable {sections : List (String × List String)}

theorem linesOf_report (titles : ∀ s ∈ sections, OneLine s.1) (plain : ∀ s ∈ sections, Plain s.2) :
    linesOf ("\n".intercalate (["# Type Safety Report", ""] ++ written sections)) =
      ["# Type Safety Report", ""] ++ written sections := by
  have title : ∀ line ∈ ["# Type Safety Report", ""], OneLine line := by decide
  apply linesOf_intercalate
  · intro line member
    rcases List.mem_append.1 member with front | inside
    · exact title line front
    · exact oneLine_written titles (fun s listed => (plain s listed).oneLine) line inside
  · simp

theorem filter_isHeading_report (plain : ∀ s ∈ sections, Plain s.2) :
    (["# Type Safety Report", ""] ++ written sections).filter isHeading =
      "# Type Safety Report" :: sections.map fun s => "## " ++ s.1 := by
  rw [List.filter_append, filter_isHeading_written fun s listed => (plain s listed).unheaded]
  rfl

theorem sectionBelow_report (plain : ∀ s ∈ sections, Plain s.2) (distinct : (sections.map Prod.fst).Nodup)
    {title : String} {body : List String} (listed : (title, body) ∈ sections) :
    sectionBelow ("## " ++ title) (["# Type Safety Report", ""] ++ written sections) = "" :: body ++ [""] := by
  have other : "## " ++ title ∉ ["# Type Safety Report", ""] := by
    intro member
    have second : some '#' ∈ ["# Type Safety Report", ""].map fun line => line.toList[1]? := by
      refine List.mem_map.2 ⟨_, member, ?_⟩
      simp
    revert second
    decide
  rw [sectionBelow_append other, sectionBelow_written (fun s listed => (plain s listed).unheaded) distinct listed]

theorem below_titled (plain : ∀ s ∈ titled overview critical patterns files recommendations, Plain s.2) :
    let lines := ["# Type Safety Report", ""] ++ written (titled overview critical patterns files recommendations)
    sectionBelow "## Overview" lines = "" :: overview ++ [""] ∧
      sectionBelow "## Critical Issues" lines = "" :: critical ++ [""] ∧
      sectionBelow "## Common Issue Patterns" lines = "" :: patterns ++ [""] ∧
      sectionBelow "## Files with Most Issues" lines = "" :: files ++ [""] := by
  have distinct : ((titled overview critical patterns files recommendations).map Prod.fst).Nodup := by
    change ["Overview", "Critical Issues", "Common Issue Patterns", "Files with Most Issues", "Recommendations"].Nodup
    decide
  have below (title : String) (body : List String) := @sectionBelow_report _ plain distinct title body
  exact ⟨below "Overview" overview (by simp [titled]), below "Critical Issues" critical (by simp [titled]),
    below "Common Issue Patterns" patterns (by simp [titled]), below "Files with Most Issues" files (by simp [titled])⟩

theorem plain_titled (first : Plain overview) (second : Plain critical) (third : Plain patterns) (fourth : Plain files)
    (fifth : Plain recommendations) : ∀ s ∈ titled overview critical patterns files recommendations, Plain s.2 := by
  intro s member
  simp only [titled, List.mem_cons, List.not_mem_nil, or_false] at member
  rcases member with rfl | rfl | rfl | rfl | rfl
  · exact first
  · exact second
  · exact third
  · exact fourth
  · exact fifth

theorem oneLine_titled : ∀ s ∈ titled overview critical patterns files recommendations, OneLine s.1 := by
  have titles : ∀ title ∈ ["Overview", "Critical Issues", "Common Issue Patterns", "Files with Most Issues",
      "Recommendations"], OneLine title := by decide
  intro s member
  exact titles s.1 (List.mem_map_of_mem member)

end Whole

section Run

variable {timestamp : String} {results : List UnitResult}

/-- The sections that are found in the text of a report, and what their tables have. -/
theorem sections_of_report (single : OneLine timestamp) (known : firstUnknown? (allFindings results) = none)
    (listed : ∀ f ∈ allFindings results, f.code ∈ Code.all) :
    ∃ critical patterns files recommendations,
      let sections := titled (itemLines (overviewItems timestamp results)) critical patterns files recommendations
      linesOf (markdownText (runOf timestamp results)) = ["# Type Safety Report", ""] ++ written sections ∧
        (∀ s ∈ sections, Plain s.2) ∧
        rowsIn ("" :: critical ++ [""]) =
          ((allFindings results).filter (·.severity == Severity.error)).map (fun f => row (criticalRow f)) ∧
        ("No critical issues found." ∈ "" :: critical ++ [""] ↔
          ∀ f ∈ allFindings results, f.severity ≠ Severity.error) ∧
        (rowsIn ("" :: patterns ++ [""])).map secondNumber? =
          ((ranked (allFindings results)).map Prod.snd).map some ∧
        (rowsIn ("" :: files ++ [""])).length = min 10 (results.countP UnitResult.hasFindings) := by
  have codes : (runOf timestamp results).statistics.topCodes = ranked (allFindings results) :=
    mostFrequent_of_listed listed
  obtain ⟨critical, second, plainCritical, errorRows, noError⟩ := plain_critical (runOf timestamp results) listed
  obtain ⟨patterns, third, plainPatterns, numbers⟩ := plain_patterns (runOf timestamp results) (by
    rw [codes]
    intro entry member
    exact listed_of_mem_ranked listed member)
  obtain ⟨files, fourth, plainFiles, fileRows⟩ := plain_files (runOf timestamp results)
  obtain ⟨recommendations, fifth, plainRecommendations⟩ := plain_recommendations
  have plainOverview : Plain (itemLines (overviewItems timestamp results)) :=
    ⟨oneLine_itemLines (oneLine_overviewItems single), isHeading_itemLines⟩
  have plain := plain_titled plainOverview plainCritical plainPatterns plainFiles plainRecommendations
  rw [codes] at numbers
  rw [length_perUnit] at fileRows
  refine ⟨critical, patterns, files, recommendations, ?_, plain, errorRows, noError, numbers, ?_⟩
  · rw [markdownText, markdownLines_titled (overviewSection_items known) second third fourth fifth,
      linesOf_report oneLine_titled plain]
  · rw [fileRows, ← length_fileCounts]
    rfl

theorem passed_runOf (timestamp : String) (known : firstUnknown? (allFindings results) = none) :
    (runOf timestamp results).passed = true ↔
      ((allFindings results).filter (·.severity == Severity.error)).map (fun f => row (criticalRow f)) = [] := by
  rw [passed_iff (summarize_of_known known), List.map_eq_nil_iff, List.filter_eq_nil_iff]
  simp

end Run

/-- From the text of its report, split at line ends, the structure of a run is read again, whatever its paths and
messages are. -/
theorem markdown_keeps_structure (timestamp : String) (results : List UnitResult) (single : '\n' ∉ timestamp.toList)
    (known : ∀ f ∈ allFindings results, ∃ g : Grade, f.severity = g.word)
    (listed : ∀ f ∈ allFindings results, f.code ∈ Code.all) :
    ∃ r, summarize timestamp results = .ok r ∧ r.findings = allFindings results ∧
      ReadsAsReport results (linesOf (markdownText r)) := by
  rw [← firstUnknown?_eq_none_iff] at known
  refine ⟨runOf timestamp results, summarize_of_known known, rfl, ?_⟩
  obtain ⟨critical, patterns, files, recommendations, lines, plain, errorRows, noError, numbers, fileRows⟩ :=
    sections_of_report single known listed
  obtain ⟨overviewLines, criticalLines, patternLines, fileLines⟩ := below_titled plain
  rw [lines]
  refine ⟨?_, ?_, ?_, ?_, ?_, ?_, ?_, ?_⟩
  · exact filter_isHeading_report plain
  · rw [criticalLines, errorRows]
  · rw [criticalLines, noError]
  · rw [patternLines]
    exact ⟨_, numbers, sum_ranked _⟩
  · rw [overviewLines, itemValues_overview (by decide)]
    rfl
  · rw [fileLines, fileRows]
  · rw [overviewLines, itemValues_overview (by decide)]
    rfl
  · rw [overviewLines, itemValues_overview (by decide), criticalLines, errorRows]
    exact congrArg (fun status => [status]) (if_congr (passed_runOf timestamp known) rfl rfl)

/-- A path and a message that look like a heading and like rows, with line ends in them. -/
def awkwardResults : List UnitResult :=
  [⟨"# a|b\n.py", [⟨"# a|b\n.py", 1, -2, Severity.error, Code.unsafeCoercion, "# x\n| y", none⟩,
    ⟨"# a|b\n.py", 3, 1, Severity.info, Code.typeAssertion, "", none⟩]⟩, ⟨"c.py", []⟩]

theorem awkwardResults_reported :
    firstUnknown? (allFindings awkwardResults) = none ∧ (∀ f ∈ allFindings awkwardResults, f.code ∈ Code.all) ∧
      ∃ r, summarize "now" awkwardResults = .ok r ∧
        (linesOf (markdownText r)).filter isHeading = ["# Type Safety Report", "## Overview", "## Critical Issues",
          "## Common Issue Patterns", "## Files with Most Issues", "## Recommendations"] ∧
        rowsIn (sectionBelow "## Critical Issues" (linesOf (markdownText r))) =
          ["| # a\\|b .py | 1 | -2 | UNSAFE-COERCION | # x \\| y |"] ∧
        itemValues "Status" (sectionBelow "## Overview" (linesOf (markdownText r))) = ["FAILED"] := by
  have known : firstUnknown? (allFindings awkwardResults) = none := by decide
  have listed : ∀ f ∈ allFindings awkwardResults, f.code ∈ Code.all := by decide
  obtain ⟨r, made, -, reads⟩ := markdown_keeps_structure "now" awkwardResults (by decide)
    (firstUnknown?_eq_none_iff.1 known) listed
  have critical : rowsIn (sectionBelow "## Critical Issues" (linesOf (markdownText r))) =
      ["| # a\\|b .py | 1 | -2 | UNSAFE-COERCION | # x \\| y |"] := by
    rw [reads.critical]
    decide +kernel
  refine ⟨known, listed, r, made, reads.headings, critical, ?_⟩
  rw [reads.status, critical]
  rfl

end TypingAudit.Report
