import TypingAudit.Proofs.Command.Course
import TypingAudit.Proofs.Report.Recount
import TypingAudit.Proofs.Selection.UnitNames

/-!
The units of a run. They are found after the log is set up, and since a log is no source file they are files that
were there before; so no two of them share a name, and neither do the results of auditing them.
-/

namespace TypingAudit.Command

open Audit Rule Selection Storage Summary Workspace

section Selecting

variable {env : Environment} {w : Workspace} {o : Options}

theorem keepGiven_sublist {given : List (Given String)} {units kept : List SourceFile}
    (ended : (keepGiven given units).run.value = .ok kept) : kept.Sublist units := by
  unfold keepGiven at ended
  dsimp only at ended
  split at ended
  · rw [Stage.ofLogged_value] at ended
    cases ended
    exact List.filter_sublist
  · cases ended

theorem selectUnits_eq_ok {units : List SourceFile} (selected : (selectUnits env w o).run.value = .ok units) :
    ∃ targets, (existingTargets w env.homes (targetPaths env o).value).value = some targets ∧
      units.Sublist (sourceFiles w (some (.ofLocation w.directory)) targets).value := by
  unfold selectUnits at selected
  simp only [Stage.bind_value_eq_ok_iff, Stage.ofLogged_value, Stage.ofOption_value_eq_ok_iff] at selected
  obtain ⟨given, named, targets, existing, selected⟩ := selected
  cases named
  refine ⟨targets, existing, ?_⟩
  -- the warning about missing targets leaves the value alone
  split at selected
  · simp only [Stage.bind_value_eq_ok_iff, Stage.ofLogged_value] at selected
    obtain ⟨-, -, found, same, kept⟩ := selected
    cases same
    exact keepGiven_sublist kept
  · simp only [Stage.bind_value_eq_ok_iff, Stage.ofLogged_value] at selected
    obtain ⟨found, same, kept⟩ := selected
    cases same
    exact keepGiven_sublist kept

theorem not_isSource_logName (env : Environment) : ¬IsSource (logName env) := by
  rintro ⟨stem, -, same⟩
  have ends := congrArg (fun s => s.toList.getLast?) same
  simp only [logName, String.toList_append] at ends
  rw [List.getLast?_append_of_ne_nil _ (by decide), List.getLast?_append_of_ne_nil _ (by decide)] at ends
  revert ends
  decide

/-- The log that a run sets up is no source file, so that the source files keep their proper names. -/
theorem properSources_setUp (wellFormed : w.WellFormed) : ProperSources (setUp env w o).1 := by
  have started : SetsUp env w o (setUp env w o) := setsUp_openLog wellFormed.toStanding _
  generalize setUp env w o = start at started
  intro file content name there last isSource
  have kept : start.1.contentAt file = w.contentAt file := by
    cases started with
    | failed after fatal kept => exact kept.contents file (by simp)
    | opened after book placed changed started =>
      refine changed.contents file ?_
      rw [List.mem_singleton]
      rintro rfl
      obtain ⟨path, -, located⟩ := Option.map_eq_some_iff.1 placed
      rw [← located, List.getLast?_append_of_ne_nil _ (by simp), List.getLast?_singleton] at last
      cases last
      exact not_isSource_logName env isSource
  have before : w.contentAt file = some content := by
    rw [← kept, contentAt, there]
    rfl
  obtain ⟨node, found, -⟩ := Option.bind_eq_some_iff.1 before
  exact (wellFormed.named.of_get? found).2

theorem standing_setUp (standing : w.Standing) : (setUp env w o).1.Standing := by
  have started : SetsUp env w o (setUp env w o) := setsUp_openLog standing _
  generalize setUp env w o = start at started
  cases started with
  | failed after fatal kept => exact kept.standing
  | opened after book placed changed started => exact changed.standing

theorem nodup_selectUnits (wellFormed : w.WellFormed) {units : List SourceFile}
    (selected : (selectUnits env (setUp env w o).1 o).run.value = .ok units) :
    (units.map SourceFile.unitPath).Nodup := by
  have standing : (setUp env w o).1.Standing := standing_setUp wellFormed.toStanding
  obtain ⟨targets, existing, kept⟩ := selectUnits_eq_ok selected
  have distinct := nodup_unitPath standing (properSources_setUp wellFormed)
    (isTarget_of_existingTargets standing.plain existing)
  exact distinct.sublist (kept.map SourceFile.unitPath)

end Selecting

section Auditing

theorem grade_of_rule {stack : Ast.CallStack} {d : Check} (listed : d ∈ catalogue stack) :
    ∃ g : Grade, d.severity = g.word := by
  simp only [catalogue, List.mem_cons, List.not_mem_nil, or_false] at listed
  rcases listed with rfl | rfl | rfl | rfl | rfl | rfl | rfl | rfl
  · exact ⟨.warning, rfl⟩
  · exact ⟨.warning, rfl⟩
  · exact ⟨.info, rfl⟩
  · exact ⟨.warning, rfl⟩
  · exact ⟨.error, rfl⟩
  · exact ⟨.warning, rfl⟩
  · exact ⟨.warning, rfl⟩
  · exact ⟨.info, rfl⟩

variable {w : Workspace} {codes : List String} {units : List SourceFile} {outcomes : List Outcome}

theorem succeeded_unitPath_sublist
    (paired : List.Forall₂ (fun u outcome =>
      (auditUnit (RuleSet.standard codes) u.unitPath (w.readFile u.path)).value = .ok outcome) units outcomes) :
    ((succeeded outcomes).map UnitResult.unitPath).Sublist (units.map SourceFile.unitPath) := by
  induction paired with
  | nil => exact .slnil
  | @cons u outcome units outcomes audited rest ih =>
    have named := outcomePath_auditUnit (RuleSet.isNative_standard codes).wellFormed audited
    cases outcome with
    | error failure => exact ih.cons u.unitPath
    | ok result =>
      have path : result.unitPath = u.unitPath := named
      change (result.unitPath :: (succeeded outcomes).map UnitResult.unitPath).Sublist _
      rw [path, List.map_cons]
      exact ih.cons_cons u.unitPath

theorem separate_succeeded (distinct : (units.map SourceFile.unitPath).Nodup)
    (paired : List.Forall₂ (fun u outcome =>
      (auditUnit (RuleSet.standard codes) u.unitPath (w.readFile u.path)).value = .ok outcome) units outcomes) :
    Report.Separate (succeeded outcomes) := by
  refine ⟨distinct.sublist (succeeded_unitPath_sublist paired), ?_⟩
  intro result member f found
  obtain ⟨u, -, audited⟩ := (mem_outcomes_iff paired _).1 (mem_succeeded_iff.1 member)
  obtain ⟨d, -, -, -, -, path⟩ := rule_of_finding audited found
  exact path

theorem known_succeeded
    (paired : List.Forall₂ (fun u outcome =>
      (auditUnit (RuleSet.standard codes) u.unitPath (w.readFile u.path)).value = .ok outcome) units outcomes) :
    firstUnknown? (allFindings (succeeded outcomes)) = none := by
  rw [firstUnknown?_eq_none_iff]
  intro f found
  obtain ⟨result, member, found⟩ := List.mem_flatMap.1 found
  obtain ⟨u, -, audited⟩ := (mem_outcomes_iff paired _).1 (mem_succeeded_iff.1 member)
  obtain ⟨d, listed, -, -, severity, -⟩ := rule_of_finding audited found
  obtain ⟨g, same⟩ := grade_of_rule listed
  exact ⟨g, severity.trans same⟩

end Auditing

end TypingAudit.Command
