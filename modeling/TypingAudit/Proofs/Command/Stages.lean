import TypingAudit.Command.Run
import TypingAudit.Proofs.Audit.Slots

/-!
The stages of a run that comes to its end: every stage has succeeded, so that the summary of the run is that of
the files which were selected, audited and settled one after another.
-/

namespace TypingAudit.Command

open Audit Selection Storage Summary

namespace Stage

variable {α β ε : Type}

theorem bind_value (x : Stage α) (f : α → Stage β) :
    (x >>= f).run.value = x.run.value >>= fun a => (f a).run.value := by
  rw [ExceptT.run_bind, Logged.value_bind]
  cases x.run.value with
  | error fatal => rfl
  | ok a => rfl

theorem bind_value_eq_ok_iff {x : Stage α} {f : α → Stage β} {b : β} :
    (x >>= f).run.value = .ok b ↔ ∃ a, x.run.value = .ok a ∧ (f a).run.value = .ok b := by
  rw [bind_value, bind_eq_ok_iff]

theorem pure_value (a : α) : (pure a : Stage α).run.value = .ok a := rfl

theorem ofLogged_value (x : Logged α) : (ofLogged x).run.value = .ok x.value := rfl

theorem ofOption_value_eq_ok_iff {fatal : Fatal} {x : Logged (Option α)} {a : α} :
    (ofOption fatal x).run.value = .ok a ↔ x.value = some a := by
  obtain ⟨value, log⟩ := x
  cases value with
  | none =>
    change Except.error fatal = Except.ok a ↔ none = some a
    simp
  | some b =>
    change Except.ok b = Except.ok a ↔ some b = some a
    simp

theorem ofExcept_value (fatal : ε → Fatal) (x : Logged (Except ε α)) :
    (ofExcept fatal x).run.value = x.value.mapError fatal := rfl

end Stage

open Stage

/-- The first failure ends the run, unless failures are skipped. -/
theorem settle_value (skipErrors : Bool) (outcomes : List Outcome) :
    (settle skipErrors outcomes).value =
      match skipErrors, failed outcomes with
      | false, first :: _ => .error first
      | _, _ => .ok (succeeded outcomes) := by
  unfold settle
  cases skipErrors <;> cases failed outcomes <;> rfl

theorem settle_eq_ok {skipErrors : Bool} {outcomes : List Outcome} {results : List UnitResult}
    (settled : (settle skipErrors outcomes).value = .ok results) :
    results = succeeded outcomes ∧ (skipErrors = false → failed outcomes = []) := by
  rw [settle_value] at settled
  split at settled
  · cases settled
  · rename_i kept
    cases settled
    refine ⟨rfl, fun strict => ?_⟩
    cases absent : failed outcomes with
    | nil => rfl
    | cons first others => exact absurd absent (kept first others strict)

theorem auditResults_eq_ok {env : Environment} {w : Workspace} {o : Options} {units : List SourceFile}
    {results : List UnitResult} (audited : (auditResults env w o units).run.value = .ok results) :
    ∃ codes outcomes, (disabledCodes o).run.value = .ok codes ∧
      List.Forall₂ (fun u outcome =>
        (auditUnit (RuleSet.standard codes) u.unitPath (w.readFile u.path)).value = .ok outcome) units outcomes ∧
      results = succeeded outcomes ∧ (o.skipErrors = false → failed outcomes = []) := by
  unfold auditResults at audited
  simp only [bind_value_eq_ok_iff, ofExcept_value, mapError_eq_ok_iff] at audited
  obtain ⟨codes, disabled, jobs, -, outcomes, each, settled⟩ := audited
  rw [auditUnits_value, auditEach_value_ok_iff] at each
  exact ⟨codes, outcomes, disabled, each, settle_eq_ok settled⟩

theorem reportPath_of_inspect {env : Environment} {w : Workspace} {o : Options} {i : Inspected}
    (inspected : (inspect env w o).run.value = .ok i) :
    (reportPath env o.jsonReport Variable.jsonReport defaultJsonReport).run.value = .ok i.jsonPath ∧
      (reportPath env o.markdownReport Variable.markdownReport defaultMarkdownReport).run.value =
        .ok i.markdownPath := by
  unfold inspect at inspected
  simp only [bind_value_eq_ok_iff] at inspected
  obtain ⟨jsonPath, json, markdownPath, markdown, _, -, _, -, _, -, _, -, made⟩ := inspected
  rw [pure_value] at made
  cases made
  exact ⟨json, markdown⟩

theorem inspect_eq_ok {env : Environment} {w : Workspace} {o : Options} {i : Inspected}
    (inspected : (inspect env w o).run.value = .ok i) :
    ∃ units results, (selectUnits env w o).run.value = .ok units ∧
      (auditResults env w o units).run.value = .ok results ∧
      summarize env.clock.inReport results = .ok i.run := by
  unfold inspect at inspected
  simp only [bind_value_eq_ok_iff, ofExcept_value, mapError_eq_ok_iff] at inspected
  obtain ⟨jsonPath, -, markdownPath, -, units, selected, -, -, results, audited, run, summarized, made⟩ := inspected
  rw [pure_value] at made
  cases made
  exact ⟨units, results, selected, audited, summarized⟩

section Delivery

variable {w : Workspace} {ci : Bool} {i : Inspected} {status : Nat}

theorem deliverMarkdown_eq_ok (delivered : (deliverMarkdown w ci i).ending = .ok status) :
    status = (Report.exitStatus ci i.run).value := by
  unfold deliverMarkdown at delivered
  split at delivered
  · cases delivered
    rfl
  · dsimp only at delivered
    split at delivered
    · cases delivered
    · cases delivered
      rfl

theorem deliver_eq_ok (delivered : (deliver w ci i).ending = .ok status) :
    status = (Report.exitStatus ci i.run).value := by
  unfold deliver at delivered
  dsimp only at delivered
  split at delivered
  · cases delivered
  · exact deliverMarkdown_eq_ok delivered

end Delivery

theorem carryOut_eq_ok {env : Environment} {w : Workspace} {style : Console.Style} {o : Options} {status : Nat}
    (ended : (carryOut env w style o).ending = .ok status) :
    ∃ i, (inspect env w o).run.value = .ok i ∧ status = (Report.exitStatus o.ci i.run).value := by
  unfold carryOut at ended
  dsimp only at ended
  split at ended
  case h_1 => cases ended
  case h_2 i inspected => exact ⟨i, inspected, deliver_eq_ok ended⟩

end TypingAudit.Command
