import TypingAudit.Proofs.Summary.Conservation
import TypingAudit.Proofs.Summary.Ranking
import TypingAudit.Report.Markdown

/-!
The order in which files come. The figures of a run are the same whatever it is. Only the list of files with findings
sees it, and there too only between files with the same total: they stand as they came, and all others by their totals.
So the table of files, which shows the beginning of this list, leaves out no file for one with fewer findings.
-/

namespace TypingAudit.Summary

open Audit Report

section Figures

variable {results others : List UnitResult}

theorem allFindings_perm (same : others.Perm results) : (allFindings others).Perm (allFindings results) :=
  same.flatMap fun _ _ => .refl _

theorem countsOf_perm {first second : List Finding} (same : first.Perm second) : countsOf first = countsOf second := by
  have counted (g : Grade) : occurrences g first = occurrences g second := same.countP_eq _
  rw [countsOf_eq, countsOf_eq, counted, counted, counted]

theorem mostFrequent_perm {first second : List Finding} (same : first.Perm second) (limit : Int) :
    mostFrequent limit first = mostFrequent limit second := by
  rw [mostFrequent_eq, mostFrequent_eq, ranked_eq_of_perm same]

theorem fileCounts_perm (same : others.Perm results) : (fileCounts others).Perm (fileCounts results) :=
  (same.filter _).map _

end Figures

section ByTotal

variable (perUnit : List (String × Tally))

theorem byTotal_perm : (byTotal perUnit).Perm perUnit := List.mergeSort_perm _ _

theorem noLess_trans (a b c : String × Tally) (first : decide (b.2.total ≤ a.2.total) = true)
    (second : decide (c.2.total ≤ b.2.total) = true) : decide (c.2.total ≤ a.2.total) = true := by
  rw [decide_eq_true_eq] at first second ⊢
  exact le_trans second first

theorem noLess_total (a b : String × Tally) :
    (decide (b.2.total ≤ a.2.total) || decide (a.2.total ≤ b.2.total)) = true := by
  rw [Bool.or_eq_true, decide_eq_true_eq, decide_eq_true_eq]
  exact le_total _ _

theorem pairwise_byTotal : (byTotal perUnit).Pairwise fun a b => b.2.total ≤ a.2.total := by
  have sorted : (byTotal perUnit).Pairwise fun a b => decide (b.2.total ≤ a.2.total) = true :=
    List.pairwise_mergeSort noLess_trans noLess_total perUnit
  exact sorted.imp of_decide_eq_true

theorem filter_byTotal (total : Int) :
    (byTotal perUnit).filter (·.2.total == total) = perUnit.filter (·.2.total == total) := by
  have equal : ∀ entry ∈ perUnit.filter (·.2.total == total), entry.2.total = total := by
    intro entry member
    exact beq_iff_eq.1 (List.mem_filter.1 member).2
  have ordered : (perUnit.filter (·.2.total == total)).Pairwise fun a b => decide (b.2.total ≤ a.2.total) = true := by
    apply List.pairwise_of_forall_mem_list
    intro a first b second
    rw [decide_eq_true_eq, equal a first, equal b second]
  -- Sorting does not disturb a sublist that is in order; this one is also as long as what is left of the whole.
  have kept : (perUnit.filter (·.2.total == total)).Sublist (byTotal perUnit) :=
    List.sublist_mergeSort noLess_trans noLess_total ordered List.filter_sublist
  have within : (perUnit.filter (·.2.total == total)).Sublist ((byTotal perUnit).filter (·.2.total == total)) := by
    simpa only [List.filter_filter, Bool.and_self] using kept.filter (·.2.total == total)
  have length := ((byTotal_perm perUnit).filter (·.2.total == total)).length_eq
  exact (within.eq_of_length length.symm).symm

end ByTotal

/-- The list has an entry for each result with findings, with their numbers. It stands in the order of the totals and,
where these are equal, in the order of the results. -/
structure FilesInOrder (results : List UnitResult) (perUnit : List (String × Tally)) : Prop where
  entries : perUnit.Perm ((results.filter UnitResult.hasFindings).map fun r => (r.unitPath, countsOf r.findings))
  descending : perUnit.Pairwise fun a b => b.2.total ≤ a.2.total
  ties : ∀ total, perUnit.filter (·.2.total == total) =
    ((results.filter UnitResult.hasFindings).map fun r => (r.unitPath, countsOf r.findings)).filter
      (·.2.total == total)

theorem filesInOrder_byTotal (results : List UnitResult) : FilesInOrder results (byTotal (fileCounts results)) where
  entries := byTotal_perm _
  descending := pairwise_byTotal _
  ties := filter_byTotal _

/-- The table of files in the report shows ten files, or all if there are no more of them, and a file that it leaves out
has no greater total than one that it shows. -/
structure ShowsTopFiles (r : Run) (shown omitted : List (String × Tally)) : Prop where
  whole : r.statistics.perUnit = shown ++ omitted
  length : shown.length = min 10 r.statistics.unitsWithIssues
  rows : filesSection r = headed "Files with Most Issues"
    (table ["File", "Total", "Errors", "Warnings", "Info"] "No files with issues." (shown.map fileRow))
  part : filesSection r <:+: markdownLines r
  top : ∀ a ∈ shown, ∀ b ∈ omitted, b.2.total ≤ a.2.total

section Run

variable {results : List UnitResult}

theorem statistics_of_known (timestamp : String) (known : firstUnknown? (allFindings results) = none) :
    statistics results = .ok (runOf timestamp results).statistics := by
  have made : summarize timestamp results = .ok (runOf timestamp results) := summarize_of_known known
  obtain ⟨s, computed, same⟩ := map_eq_ok_iff.1 made
  rw [computed, ← same]

theorem filesSection_infix (r : Run) : filesSection r <:+: markdownLines r :=
  ⟨"# Type Safety Report" :: "" :: overviewSection r ++ criticalSection r ++ patternsSection r, recommendationsSection,
    rfl⟩

theorem showsTopFiles_runOf (timestamp : String) (results : List UnitResult) :
    ShowsTopFiles (runOf timestamp results) ((byTotal (fileCounts results)).take unitsShown)
      ((byTotal (fileCounts results)).drop unitsShown) where
  whole := (List.take_append_drop _ _).symm
  length := by
    rw [List.length_take, (byTotal_perm _).length_eq]
    rfl
  rows := rfl
  part := filesSection_infix _
  top := by
    have sorted := pairwise_byTotal (fileCounts results)
    rw [← List.take_append_drop unitsShown (byTotal (fileCounts results)), List.pairwise_append] at sorted
    exact sorted.2.2

end Run

/-- With the files in another order the statistics are the same but for the list of files, which is the same up to
order. Either list has its own order from the totals first and from the order of the files then. -/
theorem statistics_of_reordered (results others : List UnitResult) (same : others.Perm results)
    (known : ∀ f ∈ allFindings results, ∃ g : Grade, f.severity = g.word) :
    ∃ s s', statistics results = .ok s ∧ statistics others = .ok s' ∧
      s'.totalUnits = s.totalUnits ∧ s'.unitsWithIssues = s.unitsWithIssues ∧ s'.counts = s.counts ∧
      s'.topCodes = s.topCodes ∧ s'.perUnit.Perm s.perUnit ∧
      FilesInOrder results s.perUnit ∧ FilesInOrder others s'.perUnit ∧
      ∀ timestamp,
        (∃ r shown omitted, summarize timestamp results = .ok r ∧ r.statistics = s ∧ ShowsTopFiles r shown omitted) ∧
        ∃ r shown omitted, summarize timestamp others = .ok r ∧ r.statistics = s' ∧ ShowsTopFiles r shown omitted := by
  have findings := allFindings_perm same
  have files := fileCounts_perm same
  have known' : ∀ f ∈ allFindings others, ∃ g : Grade, f.severity = g.word := by
    intro f found
    exact known f (findings.mem_iff.1 found)
  rw [← firstUnknown?_eq_none_iff] at known known'
  refine ⟨_, _, statistics_of_known "" known, statistics_of_known "" known', same.length_eq, files.length_eq,
    countsOf_perm findings, mostFrequent_perm findings codesShown, ?_, filesInOrder_byTotal results,
    filesInOrder_byTotal others, ?_⟩
  · have listed : (byTotal (fileCounts others)).Perm (fileCounts results) := (byTotal_perm _).trans files
    exact listed.trans (byTotal_perm _).symm
  · intro timestamp
    constructor
    · exact ⟨_, _, _, summarize_of_known known, rfl, showsTopFiles_runOf timestamp results⟩
    · exact ⟨_, _, _, summarize_of_known known', rfl, showsTopFiles_runOf timestamp others⟩

def tiedResults : List UnitResult :=
  [("c.py", [Severity.info]), ("b.py", [Severity.info, Severity.error]), ("a.py", [Severity.error])].map fun file =>
    ⟨file.1, file.2.map fun severity => ⟨file.1, 1, 1, severity, Code.unsafeCoercion, "", none⟩⟩

theorem tiedResults_reordered :
    tiedResults.reverse.Perm tiedResults ∧ firstUnknown? (allFindings tiedResults) = none ∧
      ∃ s s', statistics tiedResults = .ok s ∧ statistics tiedResults.reverse = .ok s' ∧
        s'.counts = s.counts ∧ s'.perUnit.Perm s.perUnit ∧
        s.perUnit.filter (·.2.total == 1) = [("c.py", ⟨0, 0, 1⟩), ("a.py", ⟨1, 0, 0⟩)] ∧
        s'.perUnit.filter (·.2.total == 1) = [("a.py", ⟨1, 0, 0⟩), ("c.py", ⟨0, 0, 1⟩)] := by
  have same := tiedResults.reverse_perm
  have known : firstUnknown? (allFindings tiedResults) = none := by decide
  obtain ⟨s, s', made, made', -, -, counts, -, files, order, order', -⟩ :=
    statistics_of_reordered tiedResults tiedResults.reverse same (firstUnknown?_eq_none_iff.1 known)
  refine ⟨same, known, s, s', made, made', counts, files, ?_, ?_⟩
  · rw [order.ties]
    decide
  · rw [order'.ties]
    decide

end TypingAudit.Summary
