import TypingAudit.Proofs.Command.Course

/-!
Runs that fail leave reports alone. A fault before the reports leaves every file but the log as it was; the
report for readers changes only after the one for machines is written, and never in continuous integration; and
a run without a fault leaves its report behind and prints its figures once.
-/

namespace TypingAudit.Command

open Audit Selection Storage Summary Workspace

section Run

variable {env : Environment} {w : Workspace} {o : Options}

def EndsBeforeReports (env : Environment) (w : Workspace) (o : Options) : Prop :=
  ¬Succeeds (setUp env w o).2 ∨ ¬Succeeds (inspection env w o)

/-- Some path on the way starts at a home that is not known. -/
def HasBadPath (env : Environment) (w : Workspace) (o : Options) : Prop :=
  logFile? env w o = none ∨ jsonFile? env w o = none ∨ markdownFile? env w o = none ∨
    (existingTargets (setUp env w o).1 env.homes (targetPaths env o).value).value = none

def HasFailedUnit (env : Environment) (w : Workspace) (o : Options) : Prop :=
  ∃ units codes, (selectUnits env (setUp env w o).1 o).run.value = .ok units ∧
    (disabledCodes o).run.value = .ok codes ∧
    ∃ u ∈ units, ∃ failure,
      (auditUnit (RuleSet.standard codes) u.unitPath ((setUp env w o).1.readFile u.path)).value =
        .ok (.error failure)

theorem endsBeforeReports_of_badPath (standing : w.Standing) (bad : HasBadPath env w o) :
    EndsBeforeReports env w o := by
  by_contra late
  rw [EndsBeforeReports, not_or, not_not, not_not] at late
  obtain ⟨⟨book, opened⟩, ⟨i, inspected⟩⟩ := late
  rcases bad with noLog | noJson | noMarkdown | noTargets
  · have started : SetsUp env w o (setUp env w o) := setsUp_openLog standing _
    generalize begun : setUp env w o = start at started opened
    cases started with
    | failed after fatal kept => cases opened
    | opened after book placed changed started =>
      rw [noLog] at placed
      cases placed
  · rw [jsonFile?_of_inspection inspected] at noJson
    cases noJson
  · rw [markdownFile?_of_inspection inspected] at noMarkdown
    cases noMarkdown
  · obtain ⟨units, -, selected, -⟩ := inspect_eq_ok inspected
    unfold selectUnits at selected
    simp only [Stage.bind_value_eq_ok_iff, Stage.ofLogged_value, Stage.ofOption_value_eq_ok_iff] at selected
    obtain ⟨given, named, targets, existing, -⟩ := selected
    cases named
    rw [noTargets] at existing
    cases existing

theorem endsBeforeReports_of_failedUnit (failing : HasFailedUnit env w o) (strict : o.skipErrors = false) :
    EndsBeforeReports env w o := by
  right
  rintro ⟨i, inspected⟩
  obtain ⟨units, results, selected, audited, -⟩ := inspect_eq_ok inspected
  obtain ⟨codes, outcomes, disabled, paired, -, none⟩ := auditResults_eq_ok audited
  obtain ⟨units', codes', selected', disabled', u, listed, failure, failed⟩ := failing
  rw [selected] at selected'
  cases selected'
  rw [disabled] at disabled'
  cases disabled'
  have member : .error failure ∈ outcomes := (mem_outcomes_iff paired _).2 ⟨u, listed, failed⟩
  have counted : failure ∈ Audit.failed outcomes := List.mem_filterMap.2 ⟨_, member, rfl⟩
  rw [none strict] at counted
  cases counted

section Account

variable {r : RunResult}

theorem Course.fatal (course : Course env w o r) {fatal : Fatal} (ended : r.ending = .error fatal) :
    r.exitCode = 1 ∧ r.output = "" := by
  refine ⟨by rw [RunResult.exitCode, ended], ?_⟩
  cases course with
  | noLog other ending silent kept => exact silent
  | stopped log other placed ending silent kept => exact silent
  | delivered log d i placed ending printed logged inspected before delivered after =>
    rw [printed]
    cases delivered with
    | nothing other fault silent kept => exact silent
    | jsonOnly middle other fault silent json kept => exact silent
    | complete middle done printed json markdown =>
      rw [ended, done] at ending
      cases ending

theorem Course.early (course : Course env w o r) (early : EndsBeforeReports env w o) :
    (∃ fatal, r.ending = .error fatal) ∧
      ∀ file, r.workspace.contentAt file ≠ w.contentAt file → logFile? env w o = some file := by
  cases course with
  | noLog fatal ending silent kept =>
    exact ⟨⟨fatal, ending⟩, fun file changed => absurd (kept.contents file (by simp)) changed⟩
  | stopped log fatal placed ending silent kept =>
    refine ⟨⟨fatal, ending⟩, fun file changed => ?_⟩
    by_contra other
    have different : file ≠ log := by
      rintro rfl
      exact other placed
    exact changed (kept.contents file (by simpa using different))
  | delivered log d i placed ending printed logged inspected before delivered after =>
    rcases early with noLog | noResult
    · exact absurd logged noLog
    · exact absurd ⟨i, inspected⟩ noResult

theorem Course.markdown (course : Course env w o r) (different : FilesDiffer env w o) {file : Location}
    (placed : markdownFile? env w o = some file) (changed : r.workspace.contentAt file ≠ w.contentAt file) :
    o.ci = false ∧ ∃ i middle, inspection env w o = .ok i ∧
      TextWritten (setUp env w o).1 middle i.jsonPath (Report.structuredText i.run) ∧
      middle.contentAt file = w.contentAt file ∧
      r.workspace.contentAt file = some (Report.markdownText i.run).toUTF8.toList := by
  cases course with
  | noLog fatal ending silent kept => exact absurd (kept.contents file (by simp)) changed
  | stopped log fatal logged ending silent kept =>
    have notLog : file ≠ log := (different.markdown_ne_log placed logged).symm
    exact absurd (kept.contents file (by simpa using notLog)) changed
  | delivered log d i logPlaced ending printed logged inspected before delivered after =>
    have notLog : file ≠ log := (different.markdown_ne_log placed logPlaced).symm
    have notJson : file ≠ i.jsonPath.resolve w.directory :=
      different.json_ne_markdown (jsonFile?_of_inspection inspected) placed
    have first : (setUp env w o).1.contentAt file = w.contentAt file :=
      before.contents file (by simpa using notLog)
    have last : r.workspace.contentAt file = d.workspace.contentAt file :=
      after.contents file (by simpa using notLog)
    have afterJson {middle : Workspace}
        (json : TextWritten (setUp env w o).1 middle i.jsonPath (Report.structuredText i.run)) :
        middle.contentAt file = w.contentAt file := by
      rw [← first]
      refine json.changed.contents file ?_
      rw [before.directory]
      simpa using notJson
    rw [last] at changed ⊢
    cases delivered with
    | nothing fatal fault silent kept =>
      exact absurd ((kept.contents file (by simp)).trans first) changed
    | jsonOnly middle fatal fault silent json kept =>
      exact absurd ((kept.contents file (by simp)).trans (afterJson json)) changed
    | complete middle done printed json markdown =>
      rcases markdown with ⟨-, same⟩ | ⟨noCi, markdown⟩
      · rw [same] at changed
        exact absurd (afterJson json) changed
      · refine ⟨noCi, i, middle, inspected, json, afterJson json, ?_⟩
        have here : file = i.markdownPath.resolve middle.directory := by
          rw [markdownFile?_of_inspection inspected] at placed
          rw [json.changed.directory, before.directory]
          exact (Option.some.inj placed).symm
        rw [here]
        exact markdown.content

theorem Delivered.of_ok {start : Workspace} {ci : Bool} {i : Inspected} {d : Delivery} {status : Nat}
    (delivered : Delivered start ci i d) (ended : d.ending = .ok status) :
    d.output = Report.overviewText i.run ∧
      ∃ middle, TextWritten start middle i.jsonPath (Report.structuredText i.run) := by
  cases delivered with
  | nothing fatal fault silent kept =>
    rw [ended] at fault
    cases fault
  | jsonOnly middle fatal fault silent json kept =>
    rw [ended] at fault
    cases fault
  | complete middle done printed json markdown => exact ⟨printed, middle, json⟩

theorem Course.complete (course : Course env w o r) (different : FilesDiffer env w o) {status : Nat}
    (ended : r.ending = .ok status) :
    ∃ i file, inspection env w o = .ok i ∧ jsonFile? env w o = some file ∧
      r.workspace.contentAt file = some (Report.structuredText i.run).toUTF8.toList ∧
      r.output = Report.overviewText i.run := by
  cases course with
  | noLog fatal ending silent kept =>
    rw [ended] at ending
    cases ending
  | stopped log fatal placed ending silent kept =>
    rw [ended] at ending
    cases ending
  | delivered log d i placed ending printed logged inspected before delivered after =>
    obtain ⟨shown, middle, json⟩ := delivered.of_ok (ending.symm.trans ended)
    have here := jsonFile?_of_inspection inspected
    refine ⟨i, _, inspected, here, ?_, printed.trans shown⟩
    have notLog := different.json_ne_log here placed
    have notMarkdown := different.json_ne_markdown here (markdownFile?_of_inspection inspected)
    rw [after.contents _ (by simpa using notLog.symm), ← before.directory]
    exact delivered.contentAt_json json (before.directory ▸ notMarkdown)

end Account

end Run

/-- How a run treats the files of its reports. -/
structure KeepsReports (env : Environment) (w : Workspace) (arguments : List String) (o : Options)
    (r : RunResult) : Prop where
  fatal : ∀ fatal, r.ending = .error fatal → r.exitCode = 1 ∧ r.output = ""
  badPath : HasBadPath env w o → EndsBeforeReports env w o
  failedUnit : HasFailedUnit env w o → ¬SwitchGiven .skipErrors arguments → EndsBeforeReports env w o
  early : EndsBeforeReports env w o → (∃ fatal, r.ending = .error fatal) ∧
    ∀ file, r.workspace.contentAt file ≠ w.contentAt file → logFile? env w o = some file
  markdown : ∀ file, markdownFile? env w o = some file → r.workspace.contentAt file ≠ w.contentAt file →
    ¬SwitchGiven .ci arguments ∧ ∃ i middle, inspection env w o = .ok i ∧
      TextWritten (setUp env w o).1 middle i.jsonPath (Report.structuredText i.run) ∧
      middle.contentAt file = w.contentAt file ∧
      r.workspace.contentAt file = some (Report.markdownText i.run).toUTF8.toList
  ci : SwitchGiven .ci arguments → ∀ file, markdownFile? env w o = some file →
    r.workspace.contentAt file = w.contentAt file
  complete : ∀ status, r.ending = .ok status → ∃ i file, inspection env w o = .ok i ∧
    jsonFile? env w o = some file ∧
    r.workspace.contentAt file = some (Report.structuredText i.run).toUTF8.toList ∧
    r.output = Report.overviewText i.run

/-- Every run whose reports and log are three different files keeps its reports: a fault makes the exit status
one and prints nothing; a fault before the reports changes no file but the log; the report for readers changes
only without `--ci` and after the report for machines; and without a fault that report and the figures are out. -/
theorem run_keepsReports (env : Environment) (w : Workspace) (arguments : List String) (o : Options)
    (accepted : readOptions arguments = .ok o) (wellFormed : w.WellFormed) (different : FilesDiffer env w o) :
    KeepsReports env w arguments o (run env w o) := by
  have standing := wellFormed.toStanding
  have course := course_run standing different
  have inCi : SwitchGiven .ci arguments ↔ o.ci = true := (isOn_iff_given accepted .ci).symm
  have skipping : SwitchGiven .skipErrors arguments ↔ o.skipErrors = true :=
    (isOn_iff_given accepted .skipErrors).symm
  refine ⟨fun _ => course.fatal, endsBeforeReports_of_badPath standing, ?_, course.early, ?_, ?_,
    fun _ => course.complete different⟩
  · intro failing strict
    rw [skipping, Bool.not_eq_true] at strict
    exact endsBeforeReports_of_failedUnit failing strict
  · intro file placed changed
    rw [inCi, Bool.not_eq_true]
    exact course.markdown different placed changed
  · intro given file placed
    by_contra changed
    have noCi := (course.markdown different placed changed).1
    rw [inCi, noCi] at given
    cases given

def brokenFolder : Workspace := ⟨.directory [("a.py", .file [40, 10])], []⟩

def blockedFolder : Workspace := ⟨.directory [("a.py", .file [120, 10]), ("docs", .file [])], []⟩

theorem reports_of_damagedFolders :
    readOptions [] = .ok .default ∧
    (EndsBeforeReports plainEnvironment brokenFolder .default ∧
      (run plainEnvironment brokenFolder .default).exitCode = 1 ∧
      (run plainEnvironment brokenFolder .default).workspace.contentAt ["type-safety-report.json"] = none) ∧
    ¬EndsBeforeReports plainEnvironment blockedFolder .default ∧
      (run plainEnvironment blockedFolder .default).exitCode = 1 ∧
      (run plainEnvironment blockedFolder .default).output = "" := by
  have accepted : readOptions [] = .ok .default := by decide +kernel
  refine ⟨accepted, ?_, ?_⟩
  · have wellFormed : brokenFolder.WellFormed :=
      ⟨.directory _ (by decide) (by decide) (by simp [FileTree.Named.file]), ⟨_, rfl⟩⟩
    have kept := run_keepsReports plainEnvironment brokenFolder [] .default accepted wellFormed (by decide +kernel)
    have early : EndsBeforeReports plainEnvironment brokenFolder .default := by
      right
      exact Succeeds.not_of_isOk (by decide +kernel)
    obtain ⟨⟨fatal, ended⟩, onlyLog⟩ := kept.early early
    refine ⟨early, (kept.fatal fatal ended).1, ?_⟩
    by_contra changed
    have placed := onlyLog ["type-safety-report.json"] changed
    revert placed
    decide +kernel
  · have wellFormed : blockedFolder.WellFormed :=
      ⟨.directory _ (by decide) (by decide) (by simp [FileTree.Named.file]), ⟨_, rfl⟩⟩
    have kept := run_keepsReports plainEnvironment blockedFolder [] .default accepted wellFormed (by decide +kernel)
    have late : ¬EndsBeforeReports plainEnvironment blockedFolder .default :=
      not_or.2 ⟨not_not.2 (.of_isOk (by decide +kernel)), not_not.2 (.of_isOk (by decide +kernel))⟩
    have failed : ¬Succeeds (run plainEnvironment blockedFolder .default).ending :=
      Succeeds.not_of_isOk (by decide +kernel)
    cases ended : (run plainEnvironment blockedFolder .default).ending with
    | error fatal => exact ⟨late, kept.fatal fatal ended⟩
    | ok status => exact absurd ⟨status, ended⟩ failed

end TypingAudit.Command
