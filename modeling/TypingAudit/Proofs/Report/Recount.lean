import TypingAudit.Proofs.NameOrder
import TypingAudit.Proofs.Report.Totals

/-!
The report for machines, computed anew from its list of issues. Where no two files share a name and every finding
bears the name of its file, the figures of a run follow from its findings and the number of files: nothing else of
the results is in the report.
-/

namespace TypingAudit.Report

open Audit Summary

def recountedFiles (findings : List Finding) : List (String × Tally) :=
  ((findings.map Finding.unitPath).dedup.map fun path =>
    (path, countsOf (findings.filter fun f => f.unitPath = path))).mergeSort fun a b => decide (a.1 ≤ b.1)

/-- The report that follows from a number of files and a list of findings. -/
def recounted (timestamp : String) (totalUnits : Nat) (findings : List Finding) : Document :=
  .fields [
    ("timestamp", .text timestamp),
    ("totalFiles", .number totalUnits),
    ("filesWithIssues", .number (recountedFiles findings).length),
    ("issues", .list (findings.map issueFields)),
    ("summary", countsFields (countsOf findings)),
    ("fileStats", .fields ((recountedFiles findings).map fun e => (e.1, countsFields e.2)))]

def recountedText (timestamp : String) (totalUnits : Nat) (findings : List Finding) : String :=
  String.ofList ((recounted timestamp totalUnits findings).render 0 ++ ['\n'])

/-- Results of different files, in which every finding bears the name of its file. -/
structure Separate (results : List UnitResult) : Prop where
  distinct : (results.map UnitResult.unitPath).Nodup
  own : ∀ r ∈ results, ∀ f ∈ r.findings, f.unitPath = r.unitPath

section Separate

variable {results : List UnitResult}

theorem Separate.tail {r : UnitResult} (separate : Separate (r :: results)) : Separate results :=
  ⟨(List.nodup_cons.1 separate.distinct).2, (List.forall_mem_cons.1 separate.own).2⟩

theorem filter_of_absent {path : String} (own : ∀ r ∈ results, ∀ f ∈ r.findings, f.unitPath = r.unitPath)
    (absent : path ∉ results.map UnitResult.unitPath) :
    (allFindings results).filter (fun f => f.unitPath = path) = [] := by
  rw [List.filter_eq_nil_iff]
  intro f found same
  obtain ⟨r, member, found⟩ := List.mem_flatMap.1 found
  rw [decide_eq_true_eq, own r member f found] at same
  exact absent (List.mem_map.2 ⟨r, member, same⟩)

theorem Separate.filter (separate : Separate results) {r : UnitResult} (member : r ∈ results) :
    (allFindings results).filter (fun f => f.unitPath = r.unitPath) = r.findings := by
  induction results with
  | nil => cases member
  | cons first results ih =>
    obtain ⟨fresh, -⟩ := List.nodup_cons.1 separate.distinct
    obtain ⟨here, below⟩ := List.forall_mem_cons.1 separate.own
    rw [allFindings, List.flatMap_cons, List.filter_append, ← allFindings]
    rcases List.mem_cons.1 member with rfl | later
    · have all : r.findings.filter (fun f => f.unitPath = r.unitPath) = r.findings := by
        rw [List.filter_eq_self]
        intro f found
        simpa using here f found
      rw [all, filter_of_absent below fresh, List.append_nil]
    · have none : first.findings.filter (fun f => f.unitPath = r.unitPath) = [] := by
        rw [List.filter_eq_nil_iff]
        intro f found same
        rw [decide_eq_true_eq, here f found] at same
        exact fresh (List.mem_map.2 ⟨r, later, same.symm⟩)
      rw [none, List.nil_append, ih separate.tail later]

theorem mem_fileCounts_iff {e : String × Tally} :
    e ∈ fileCounts results ↔ ∃ r ∈ results, r.findings ≠ [] ∧ (r.unitPath, countsOf r.findings) = e := by
  simp [fileCounts, UnitResult.hasFindings, and_assoc]

theorem Separate.mem_recountedFiles_iff (separate : Separate results) {e : String × Tally} :
    e ∈ recountedFiles (allFindings results) ↔ e ∈ fileCounts results := by
  rw [recountedFiles, List.mem_mergeSort, List.mem_map, mem_fileCounts_iff]
  constructor
  · rintro ⟨path, occurs, rfl⟩
    obtain ⟨f, found, rfl⟩ := List.mem_map.1 (List.mem_dedup.1 occurs)
    obtain ⟨r, member, found⟩ := List.mem_flatMap.1 found
    refine ⟨r, member, List.ne_nil_of_mem found, ?_⟩
    rw [separate.own r member f found, separate.filter member]
  · rintro ⟨r, member, nonempty, rfl⟩
    obtain ⟨f, found⟩ := List.exists_mem_of_ne_nil _ nonempty
    refine ⟨r.unitPath, ?_, by rw [separate.filter member]⟩
    rw [List.mem_dedup, List.mem_map]
    exact ⟨f, List.mem_flatMap.2 ⟨r, member, found⟩, separate.own r member f found⟩

theorem Separate.fileStats_eq (separate : Separate results) :
    fileStats (byTotal (fileCounts results)) = recountedFiles (allFindings results) := by
  have perm : (byTotal (fileCounts results)).Perm (fileCounts results) := List.mergeSort_perm _ _
  have distinct : ((byTotal (fileCounts results)).map Prod.fst).Nodup :=
    (perm.map Prod.fst).nodup_iff.2 (nodup_fileCounts separate.distinct)
  have sorted := List.mergeSort_perm (byTotal (fileCounts results)) fun a b => decide (a.1 ≤ b.1)
  rw [fileStats, lastOfEach_of_nodup ((sorted.map Prod.fst).nodup_iff.2 distinct)]
  refine (pairwise_lt_byName distinct).eq_of_mem_iff (pairwise_lt_byName ?_) ?_
  · rw [List.map_map]
    exact (List.map_id _).symm ▸ List.nodup_dedup _
  · intro e
    rw [List.mem_mergeSort, perm.mem_iff, ← separate.mem_recountedFiles_iff]

theorem Separate.structuredText_runOf (separate : Separate results) (timestamp : String) :
    structuredText (runOf timestamp results) = recountedText timestamp results.length (allFindings results) := by
  have files := separate.fileStats_eq
  have number : (fileCounts results).length = (recountedFiles (allFindings results)).length := by
    rw [← files, (fileStats_perm _).length_eq, byTotal, List.length_mergeSort]
    exact ((List.mergeSort_perm _ _).map Prod.fst).nodup_iff.2 (nodup_fileCounts separate.distinct)
  simp only [structuredText, recountedText, structured, recounted, runOf, files, number]

end Separate

end TypingAudit.Report
