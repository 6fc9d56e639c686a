import TypingAudit.Proofs.Command.Stages
import TypingAudit.Proofs.Pairing

/-!
What failures do to a batch. When they are skipped, the batch comes to what it would have come to without the
files that fail, wherever these stand. When they are not, the first of them is what the batch ends with, and by
then each of them has been logged as an error, in the order of the files.
-/

namespace TypingAudit.Command

open Ast Audit Selection Storage Summary

def outcomeOf (w : Workspace) (rules : RuleSet) (u : SourceFile) : Except Escape Outcome :=
  (auditUnit rules u.unitPath (w.readFile u.path)).value

/-- Whether the audit of a file comes to findings, be they none. -/
def isAudited (w : Workspace) (rules : RuleSet) (u : SourceFile) : Bool :=
  match outcomeOf w rules u with
  | .ok (.ok _) => true
  | _ => false

def settledBatch (w : Workspace) (rules : RuleSet) (processors : Nat) (jobs : Int) (skipErrors : Bool)
    (units : List SourceFile) : Except Escape (Except UnitError (List UnitResult)) :=
  (auditUnits w rules processors jobs units).value.map fun outcomes => (settle skipErrors outcomes).value

def summarizedBatch (w : Workspace) (rules : RuleSet) (processors : Nat) (jobs : Int) (skipErrors : Bool)
    (timestamp : String) (units : List SourceFile) :
    Except Escape (Except UnitError (Except UnknownSeverity Run)) :=
  (settledBatch w rules processors jobs skipErrors units).map fun settled => settled.map (summarize timestamp)

section Settle

theorem succeeded_filter_isOk (outcomes : List Outcome) :
    succeeded (outcomes.filter Except.isOk) = succeeded outcomes := by
  rw [succeeded, succeeded, List.filterMap_filter]
  apply List.filterMap_congr
  intro outcome _
  cases outcome <;> rfl

theorem settle_skipping_value (outcomes : List Outcome) : (settle true outcomes).value = .ok (succeeded outcomes) := by
  rw [settle_value]

theorem settle_strict_log (outcomes : List Outcome) :
    (settle false outcomes).log = (failed outcomes).map fun failure => ⟨.error, failure.message⟩ := by
  unfold settle
  cases failed outcomes <;> rfl

theorem settle_strict_succeeds_iff (outcomes : List Outcome) :
    Succeeds (settle false outcomes).value ↔ failed outcomes = [] := by
  rw [settle_value]
  cases failed outcomes with
  | nil => simp
  | cons first others => simp [Succeeds]

end Settle

section Batch

variable {w : Workspace} {rules : RuleSet} {units : List SourceFile} {outcomes : List Outcome}

theorem auditUnits_eq_ok_iff {processors : Nat} {jobs : Int} :
    (auditUnits w rules processors jobs units).value = .ok outcomes ↔
      List.Forall₂ (fun u outcome => outcomeOf w rules u = .ok outcome) units outcomes := by
  rw [auditUnits_value, auditEach_value_ok_iff]
  rfl

theorem isAudited_eq_isOk {u : SourceFile} {outcome : Outcome} (came : outcomeOf w rules u = .ok outcome) :
    isAudited w rules u = outcome.isOk := by
  unfold isAudited
  rw [came]
  cases outcome <;> rfl

theorem forall₂_audited
    (paired : List.Forall₂ (fun u outcome => outcomeOf w rules u = .ok outcome) units outcomes) :
    List.Forall₂ (fun u outcome => outcomeOf w rules u = .ok outcome) (units.filter (isAudited w rules))
      (outcomes.filter Except.isOk) := by
  refine List.rel_filter ?_ paired
  intro u outcome came
  change isAudited w rules u = true ↔ outcome.isOk = true
  rw [isAudited_eq_isOk came]

theorem forall₂_failed
    (paired : List.Forall₂ (fun u outcome => outcomeOf w rules u = .ok outcome) units outcomes) :
    List.Forall₂ (fun u failure => outcomeOf w rules u = .ok (.error failure))
      (units.filter fun u => !isAudited w rules u) (failed outcomes) := by
  refine forall₂_picked ?_ ?_ paired
  · intro u outcome failure came picked
    cases outcome with
    | ok result => cases picked
    | error other =>
      cases picked
      exact ⟨by simp [isAudited, came], came⟩
  · intro u outcome came picked
    cases outcome with
    | ok result => simp [isAudited, came]
    | error failure => cases picked

theorem forall₂_succeeded
    (paired : List.Forall₂ (fun u outcome => outcomeOf w rules u = .ok outcome) units outcomes) :
    List.Forall₂ (fun u result => outcomeOf w rules u = .ok (.ok result)) (units.filter (isAudited w rules))
      (succeeded outcomes) := by
  refine forall₂_picked ?_ ?_ paired
  · intro u outcome result came picked
    cases outcome with
    | ok found =>
      cases picked
      exact ⟨by simp [isAudited, came], came⟩
    | error failure => cases picked
  · intro u outcome came picked
    cases outcome with
    | ok result => cases picked
    | error failure => simp [isAudited, came]

theorem settledBatch_skipping (processors : Nat) (jobs : Int)
    (paired : List.Forall₂ (fun u outcome => outcomeOf w rules u = .ok outcome) units outcomes) :
    settledBatch w rules processors jobs true units = .ok (.ok (succeeded outcomes)) := by
  rw [settledBatch, auditUnits_eq_ok_iff.2 paired, Except.map, settle_skipping_value]

theorem failed_eq_nil_iff
    (paired : List.Forall₂ (fun u outcome => outcomeOf w rules u = .ok outcome) units outcomes) :
    failed outcomes = [] ↔ ∀ u ∈ units, isAudited w rules u = true := by
  have lengths := (forall₂_failed paired).length_eq
  rw [← List.length_eq_zero_iff, ← lengths, List.length_eq_zero_iff, List.filter_eq_nil_iff]
  simp

/-- What a batch ends with is the failure of the first file that fails. -/
theorem find?_of_strict_error
    (paired : List.Forall₂ (fun u outcome => outcomeOf w rules u = .ok outcome) units outcomes)
    {failure : UnitError} (ended : (settle false outcomes).value = .error failure) :
    ∃ u, units.find? (fun u => !isAudited w rules u) = some u ∧ outcomeOf w rules u = .ok (.error failure) := by
  have failures := forall₂_failed paired
  rw [settle_value] at ended
  cases listed : failed outcomes with
  | nil =>
    rw [listed] at ended
    cases ended
  | cons first others =>
    rw [listed] at ended failures
    cases ended
    obtain ⟨u, later, came, -, split⟩ := List.forall₂_cons_right_iff.1 failures
    refine ⟨u, ?_, came⟩
    rw [← List.head?_filter, split]
    rfl

end Batch

/-- Skipping the failures of a batch is the same as auditing only the files that do not fail: the results are
those of these files in their order, and so is the summary. Without skipping, a batch ends early exactly when
some file fails; it ends with the failure of the first such file, after an error was logged for each of them in
the order of the files. -/
theorem failures_skipped_or_raised (w : Workspace) (rules : RuleSet) (processors : Nat) (jobs : Int)
    (units : List SourceFile) (returned : ∀ u ∈ units, Succeeds (outcomeOf w rules u)) :
    (∃ results,
      settledBatch w rules processors jobs true units = .ok (.ok results) ∧
      settledBatch w rules processors jobs true (units.filter (isAudited w rules)) = .ok (.ok results) ∧
      List.Forall₂ (fun u result => outcomeOf w rules u = .ok (.ok result)) (units.filter (isAudited w rules))
        results) ∧
    (∀ timestamp, summarizedBatch w rules processors jobs true timestamp units =
      summarizedBatch w rules processors jobs true timestamp (units.filter (isAudited w rules))) ∧
    ∃ outcomes, (auditUnits w rules processors jobs units).value = .ok outcomes ∧
      (Succeeds (settle false outcomes).value ↔ ∀ u ∈ units, isAudited w rules u = true) ∧
      (∀ failure, (settle false outcomes).value = .error failure →
        ∃ u, units.find? (fun u => !isAudited w rules u) = some u ∧ outcomeOf w rules u = .ok (.error failure)) ∧
      List.Forall₂ (fun u record => ∃ failure : UnitError, outcomeOf w rules u = .ok (.error failure) ∧
          record = ⟨.error, failure.message⟩)
        (units.filter fun u => !isAudited w rules u) (settle false outcomes).log := by
  obtain ⟨outcomes, came⟩ := (auditEach_succeeds_iff _ units).2 returned
  have paired := (auditEach_value_ok_iff _ units outcomes).1 came
  have whole := settledBatch_skipping processors jobs paired
  have kept := settledBatch_skipping processors jobs (forall₂_audited paired)
  rw [succeeded_filter_isOk] at kept
  refine ⟨⟨succeeded outcomes, whole, kept, forall₂_succeeded paired⟩, ?_, outcomes, ?_, ?_, ?_, ?_⟩
  · intro timestamp
    rw [summarizedBatch, summarizedBatch, whole, kept]
  · exact auditUnits_eq_ok_iff.2 paired
  · rw [settle_strict_succeeds_iff, failed_eq_nil_iff paired]
  · intro failure ended
    exact find?_of_strict_error paired ended
  · rw [settle_strict_log, List.forall₂_map_right_iff]
    exact (forall₂_failed paired).imp fun u failure came => ⟨failure, came, rfl⟩

def mixedFolder : Workspace :=
  ⟨.directory [("good.py", .file [105, 110, 116, 40, 120, 41, 10]), ("null.py", .file [0])], []⟩

def mixedUnits : List SourceFile := unitsNamed ["null.py", "good.py", "missing.py"]

theorem mixedFolder_skipped_or_raised :
    (∀ u ∈ mixedUnits, Succeeds (outcomeOf mixedFolder (RuleSet.standard []) u)) ∧
    (∃ results, settledBatch mixedFolder (RuleSet.standard []) 4 0 true mixedUnits = .ok (.ok results) ∧
      settledBatch mixedFolder (RuleSet.standard []) 4 0 true (unitsNamed ["good.py"]) = .ok (.ok results) ∧
      results.length = 1) ∧
    ∃ outcomes, (auditUnits mixedFolder (RuleSet.standard []) 4 0 mixedUnits).value = .ok outcomes ∧
      ¬Succeeds (settle false outcomes).value ∧ (settle false outcomes).log.length = 2 := by
  have returned : ∀ u ∈ mixedUnits, Succeeds (outcomeOf mixedFolder (RuleSet.standard []) u) := by
    have each : ∀ u ∈ mixedUnits, (outcomeOf mixedFolder (RuleSet.standard []) u).isOk = true := by decide +kernel
    exact fun u member => .of_isOk (each u member)
  have kept : mixedUnits.filter (isAudited mixedFolder (RuleSet.standard [])) = unitsNamed ["good.py"] := by
    decide +kernel
  obtain ⟨⟨results, whole, part, paired⟩, -, outcomes, came, strict, -, logged⟩ :=
    failures_skipped_or_raised mixedFolder (RuleSet.standard []) 4 0 mixedUnits returned
  rw [kept] at part paired
  refine ⟨returned, ⟨results, whole, part, paired.length_eq.symm⟩, outcomes, came, ?_, ?_⟩
  · rw [strict]
    decide +kernel
  · rw [← logged.length_eq]
    decide +kernel

end TypingAudit.Command
