import Mathlib
import TypingAudit.Proofs.Computation
import TypingAudit.Summary.Run

/-!
Counting loses no finding. A run is refused for the first finding whose severity is not one of the three;
otherwise the counts of the whole run and the counts of its files are the numbers of findings of each severity,
whatever the order in which the files are listed.
-/

namespace TypingAudit.Summary

open Audit

inductive Grade where
  | error
  | warning
  | info
deriving DecidableEq, Repr

namespace Grade

def all : List Grade := [.error, .warning, .info]

def word : Grade → String
  | .error => Severity.error
  | .warning => Severity.warning
  | .info => Severity.info

theorem mem_all (g : Grade) : g ∈ all := by
  cases g <;> decide

@[simp] theorem word_inj {g h : Grade} : g.word = h.word ↔ g = h := by
  cases g <;> cases h <;> decide

end Grade

namespace Tally

def of (c : Tally) : Grade → Int
  | .error => c.errors
  | .warning => c.warnings
  | .info => c.info

end Tally

def occurrences (g : Grade) (findings : List Finding) : Nat := findings.countP (·.severity == g.word)

theorem occurrences_cons (g : Grade) (f : Finding) (findings : List Finding) :
    occurrences g (f :: findings) = occurrences g findings + if f.severity == g.word then 1 else 0 :=
  List.countP_cons ..

/-- The first finding whose severity is none of the three. -/
def firstUnknown? (findings : List Finding) : Option Finding :=
  findings.find? fun f => Grade.all.all fun g => f.severity != g.word

theorem firstUnknown?_eq_none_iff {findings : List Finding} :
    firstUnknown? findings = none ↔ ∀ f ∈ findings, ∃ g : Grade, f.severity = g.word := by
  simp [firstUnknown?, Grade.mem_all]

theorem sum_occurrences {findings : List Finding} (known : firstUnknown? findings = none) :
    (Grade.all.map fun g => occurrences g findings).sum = findings.length := by
  induction findings with
  | nil => rfl
  | cons f findings ih =>
    rw [firstUnknown?_eq_none_iff, List.forall_mem_cons, ← firstUnknown?_eq_none_iff] at known
    obtain ⟨⟨g, same⟩, rest⟩ := known
    have counted := ih rest
    simp only [Grade.all, List.map_cons, List.map_nil, List.sum_cons, List.sum_nil, occurrences_cons, same,
      beq_iff_eq, Grade.word_inj, List.length_cons] at counted ⊢
    cases g <;> simp <;> omega

/-- A value that stands unless some finding has an unknown severity; the first of them is named otherwise. -/
def ifKnown {α : Type} (findings : List Finding) (a : α) : Except UnknownSeverity α :=
  match firstUnknown? findings with
  | some f => .error ⟨f.severity⟩
  | none => .ok a

section IfKnown

variable {α β : Type}

theorem map_ifKnown (findings : List Finding) (a : α) (f : α → β) :
    (ifKnown findings a).map f = ifKnown findings (f a) := by
  unfold ifKnown
  cases firstUnknown? findings <;> rfl

theorem ifKnown_bind (first second : List Finding) (a : α) (f : α → β) :
    (ifKnown first a >>= fun a => ifKnown second (f a)) = ifKnown (first ++ second) (f a) := by
  unfold ifKnown firstUnknown?
  rw [List.find?_append]
  cases first.find? _ <;> rfl

end IfKnown

namespace Tally

/-- The counts with those of some findings put to them. -/
def plus (c : Tally) (findings : List Finding) : Tally :=
  ⟨c.errors + occurrences .error findings, c.warnings + occurrences .warning findings,
    c.info + occurrences .info findings⟩

theorem plus_nil (c : Tally) : c.plus [] = c := by
  simp [plus, occurrences]

theorem plus_cons (c : Tally) (f : Finding) (findings : List Finding) :
    c.plus (f :: findings) = (c.plus [f]).plus findings := by
  simp only [plus, occurrences_cons, mk.injEq]
  simp only [occurrences, List.countP_nil]
  omega

theorem add_eq (c : Tally) (f : Finding) : c.add f.severity = ifKnown [f] (c.plus [f]) := by
  by_cases known : ∃ g : Grade, f.severity = g.word
  · obtain ⟨g, same⟩ := known
    have accepted : firstUnknown? [f] = none := by simp [firstUnknown?_eq_none_iff, same]
    simp only [ifKnown, accepted, plus, occurrences, List.countP_singleton, same, beq_iff_eq, Grade.word_inj]
    cases g <;> simp [add, Grade.word, Severity.error, Severity.warning, Severity.info]
  · have other (g : Grade) : f.severity ≠ g.word := fun same => known ⟨g, same⟩
    have refused : firstUnknown? [f] = some f := by simp [firstUnknown?, other]
    simp only [ifKnown, refused]
    exact (if_neg (other .error)).trans ((if_neg (other .warning)).trans (if_neg (other .info)))

end Tally

theorem foldlM_add (findings : List Finding) (c : Tally) :
    findings.foldlM (fun counts f => counts.add f.severity) c = ifKnown findings (c.plus findings) := by
  induction findings generalizing c with
  | nil =>
    rw [c.plus_nil]
    rfl
  | cons f findings ih =>
    rw [List.foldlM_cons, c.add_eq, funext ih, ifKnown_bind, c.plus_cons f findings]
    rfl

def countsOf (findings : List Finding) : Tally := Tally.zero.plus findings

theorem countsOf_eq (findings : List Finding) :
    countsOf findings =
      ⟨occurrences .error findings, occurrences .warning findings, occurrences .info findings⟩ := by
  simp only [countsOf, Tally.plus, Tally.zero, Int.zero_add]

@[simp] theorem countsOf_of (findings : List Finding) (g : Grade) :
    (countsOf findings).of g = occurrences g findings := by
  rw [countsOf_eq]
  cases g <;> rfl

theorem total_countsOf {findings : List Finding} (known : firstUnknown? findings = none) :
    (countsOf findings).total = findings.length := by
  rw [← sum_occurrences known, countsOf_eq]
  simp only [Tally.total, Grade.all, List.map_cons, List.map_nil, List.sum_cons, List.sum_nil]
  omega

theorem tally_eq (findings : List Finding) : tally findings = ifKnown findings (countsOf findings) :=
  foldlM_add findings .zero

def fileCounts (results : List UnitResult) : List (String × Tally) :=
  (results.filter UnitResult.hasFindings).map fun r => (r.unitPath, countsOf r.findings)

theorem unitCounts_eq (results : List UnitResult) :
    unitCounts results = ifKnown (allFindings results) (fileCounts results) := by
  unfold unitCounts fileCounts
  induction results with
  | nil => rfl
  | cons r results ih =>
    by_cases listed : r.hasFindings = true
    · rw [List.filter_cons_of_pos listed, List.mapM_cons, ih, tally_eq, map_ifKnown]
      change (ifKnown _ _ >>= fun entry => Except.map (fun entries => entry :: entries) _) = _
      simp only [map_ifKnown]
      rw [ifKnown_bind r.findings _ _ (fun entry => entry :: _)]
      rfl
    · have empty : r.findings = [] := by simpa [UnitResult.hasFindings] using listed
      rw [List.filter_cons_of_neg listed, ih, allFindings, allFindings, List.flatMap_cons, empty,
        List.nil_append]

/-- What a run comes to when all severities are known. -/
def runOf (timestamp : String) (results : List UnitResult) : Run where
  timestamp := timestamp
  statistics := {
    totalUnits := results.length
    unitsWithIssues := (fileCounts results).length
    counts := countsOf (allFindings results)
    topCodes := mostFrequent codesShown (allFindings results)
    perUnit := byTotal (fileCounts results) }
  findings := allFindings results

theorem summarize_eq (timestamp : String) (results : List UnitResult) :
    summarize timestamp results = ifKnown (allFindings results) (runOf timestamp results) := by
  unfold summarize statistics
  rw [unitCounts_eq, tally_eq]
  unfold ifKnown
  cases firstUnknown? (allFindings results) <;> rfl

theorem summarize_of_known {timestamp : String} {results : List UnitResult}
    (known : firstUnknown? (allFindings results) = none) :
    summarize timestamp results = .ok (runOf timestamp results) := by
  rw [summarize_eq, ifKnown, known]

theorem passed_iff {timestamp : String} {results : List UnitResult} {r : Run}
    (made : summarize timestamp results = .ok r) :
    r.passed = true ↔ ∀ f ∈ allFindings results, f.severity ≠ Severity.error := by
  rw [summarize_eq, ifKnown] at made
  split at made
  · cases made
  · cases made
    have errors : (runOf timestamp results).statistics.counts.errors =
        (occurrences .error (allFindings results) : Int) := countsOf_of _ .error
    simp [Run.passed, errors, occurrences, Grade.word]

theorem length_fileCounts (results : List UnitResult) :
    (fileCounts results).length = results.countP UnitResult.hasFindings := by
  rw [fileCounts, List.length_map, List.countP_eq_length_filter]

theorem nodup_fileCounts {results : List UnitResult} (distinct : (results.map UnitResult.unitPath).Nodup) :
    ((fileCounts results).map Prod.fst).Nodup := by
  rw [fileCounts, List.map_map]
  exact distinct.sublist (List.filter_sublist.map UnitResult.unitPath)

end TypingAudit.Summary
