import TypingAudit.Proofs.Command.Arguments
import TypingAudit.Proofs.Command.Stages
import TypingAudit.Proofs.Summary.Conservation

/-!
When a run fails its process. Besides the runs that are ended early, these are the runs in continuous integration
in which some file that was selected and audited converts a value without a check: of all rules, only the one
for such conversions finds errors.
-/

namespace TypingAudit.Command

open Audit Rule Selection Storage Summary

theorem mem_standard_iff {d : Check} {codes : List String} :
    d ∈ (RuleSet.standard codes).checks ↔ d ∈ catalogue .unbounded ∧ d.code ∉ codes := by
  simp [RuleSet.standard, RuleSet.standardOn, RuleSet.without]

/-- Every finding in an audited file was made by a rule that is not left out. -/
theorem rule_of_finding {codes : List String} {unitPath : String} {content : Except Fault (List UInt8)}
    {result : UnitResult} {f : Finding}
    (audited : (auditUnit (RuleSet.standard codes) unitPath content).value = .ok (.ok result))
    (found : f ∈ result.findings) :
    ∃ d ∈ catalogue .unbounded,
      d.code ∉ codes ∧ f.code = d.code ∧ f.severity = d.severity ∧ f.unitPath = result.unitPath := by
  rw [auditUnit_value] at audited
  split at audited
  · cases audited
  · split at audited
    · cases audited
    · rw [RuleSet.audit_value (RuleSet.isNative_standard codes).wellFormed] at audited
      cases audited
      obtain ⟨c, -, here⟩ := List.mem_flatMap.1 found
      obtain ⟨samePath, d, member, sameCode, sameSeverity⟩ := RuleSet.of_mem_findingsAt here
      obtain ⟨listed, enabled⟩ := mem_standard_iff.1 member
      exact ⟨d, listed, enabled, sameCode, sameSeverity, samePath⟩

theorem exitStatus_value (ci : Bool) (r : Run) :
    (Report.exitStatus ci r).value = if ci = true ∧ r.passed = false then 1 else 0 := by
  unfold Report.exitStatus
  cases r.passed <;> cases ci <;> rfl

/-- Some file that was selected and audited has a finding of the code. -/
def FoundInSelected (env : Environment) (w : Workspace) (o : Options) (code : String) : Prop :=
  ∃ units codes, (selectUnits env w o).run.value = .ok units ∧ (disabledCodes o).run.value = .ok codes ∧
    ∃ u ∈ units, ∃ result,
      (auditUnit (RuleSet.standard codes) u.unitPath (w.readFile u.path)).value = .ok (.ok result) ∧
        ∃ f ∈ result.findings, f.code = code

theorem passed_eq_false_iff {env : Environment} {w : Workspace} {o : Options} {i : Inspected}
    (inspected : (inspect env w o).run.value = .ok i) :
    i.run.passed = false ↔ FoundInSelected env w o Code.unsafeCoercion := by
  obtain ⟨units, results, selected, audited, summarized⟩ := inspect_eq_ok inspected
  obtain ⟨codes, outcomes, disabled, paired, rfl, -⟩ := auditResults_eq_ok audited
  have members (result : UnitResult) : result ∈ succeeded outcomes ↔
      ∃ u ∈ units, (auditUnit (RuleSet.standard codes) u.unitPath (w.readFile u.path)).value = .ok (.ok result) := by
    rw [mem_succeeded_iff, mem_outcomes_iff paired]
  have errors {result : UnitResult} (member : result ∈ succeeded outcomes) {f : Finding}
      (found : f ∈ result.findings) : f.severity = Severity.error ↔ f.code = Code.unsafeCoercion := by
    obtain ⟨u, -, single⟩ := (members result).1 member
    obtain ⟨d, listed, -, sameCode, sameSeverity, -⟩ := rule_of_finding single found
    rw [sameCode, sameSeverity]
    exact severity_eq_error_iff listed
  rw [← Bool.not_eq_true, passed_iff summarized]
  constructor
  · intro failing
    push Not at failing
    obtain ⟨f, found, isError⟩ := failing
    obtain ⟨result, member, found⟩ := List.mem_flatMap.1 found
    obtain ⟨u, listed, single⟩ := (members result).1 member
    exact ⟨units, codes, selected, disabled, u, listed, result, single, f, found,
      (errors member found).1 isError⟩
  · rintro ⟨units', codes', selected', disabled', u, listed, result, single, f, found, named⟩ passing
    rw [selected] at selected'
    cases selected'
    rw [disabled] at disabled'
    cases disabled'
    have member := (members result).2 ⟨u, listed, single⟩
    exact passing f (List.mem_flatMap.2 ⟨result, member, found⟩) ((errors member found).2 named)

theorem mem_of_mapM_value? {given : List (Given String)} {codes : List String} {code : String}
    (values : given.mapM Given.value? = some codes) (member : .value code ∈ given) : code ∈ codes := by
  induction given generalizing codes with
  | nil => cases member
  | cons first given ih =>
    simp only [List.mapM_cons, Option.bind_eq_bind, Option.bind_eq_some_iff, Option.pure_def,
      Option.some.injEq] at values
    obtain ⟨value, sameValue, rest, others, rfl⟩ := values
    rcases List.mem_cons.1 member with rfl | later
    · cases sameValue
      exact List.mem_cons_self ..
    · exact List.mem_cons_of_mem value (ih others later)

theorem mem_of_disabledCodes {o : Options} {codes : List String} {code : String}
    (disabled : (disabledCodes o).run.value = .ok codes) (member : .value code ∈ o.disable) : code ∈ codes := by
  unfold disabledCodes at disabled
  split at disabled
  · rename_i values
    cases disabled
    exact mem_of_mapM_value? values member
  · cases disabled

theorem not_found_of_disabled {env : Environment} {w : Workspace} {o : Options} {code : String}
    (member : .value code ∈ o.disable) : ¬FoundInSelected env w o code := by
  rintro ⟨units, codes, -, disabled, u, -, result, single, f, found, rfl⟩
  obtain ⟨d, -, enabled, sameCode, -⟩ := rule_of_finding single found
  rw [← sameCode] at enabled
  exact enabled (mem_of_disabledCodes disabled member)

def setUp (env : Environment) (w : Workspace) (o : Options) : Workspace × Except Fatal LogBook :=
  openLog env w (Console.Style.choose o.noColor env.terminal (env.setting? Variable.noColor)) o

def execution (env : Environment) (w : Workspace) (o : Options) : Delivery :=
  carryOut env (setUp env w o).1
    (Console.Style.choose o.noColor env.terminal (env.setting? Variable.noColor)) o

/-- A fault ends the run, either while the log is set up or afterwards. -/
def EndsEarly (env : Environment) (w : Workspace) (o : Options) : Prop :=
  ¬Succeeds (setUp env w o).2 ∨ ¬Succeeds (execution env w o).ending

section Run

variable {env : Environment} {w : Workspace} {o : Options}

theorem run_ending : (run env w o).ending = (setUp env w o).2 >>= fun _ => (execution env w o).ending := by
  unfold run execution setUp
  dsimp only
  rcases openLog env w _ o with ⟨w, fatal | book⟩
  · rfl
  · rfl

theorem exitCode_of_endsEarly (early : EndsEarly env w o) : (run env w o).exitCode = 1 := by
  unfold RunResult.exitCode
  cases ended : (run env w o).ending with
  | error fatal => rfl
  | ok status =>
    rw [run_ending, bind_eq_ok_iff] at ended
    obtain ⟨book, opened, done⟩ := ended
    exact absurd early (not_or.2 ⟨not_not.2 ⟨book, opened⟩, not_not.2 ⟨status, done⟩⟩)

theorem exitCode_of_not_endsEarly (late : ¬EndsEarly env w o) :
    ∃ i, (inspect env (setUp env w o).1 o).run.value = .ok i ∧
      (run env w o).exitCode = if o.ci = true ∧ i.run.passed = false then 1 else 0 := by
  have both : Succeeds (setUp env w o).2 ∧ Succeeds (execution env w o).ending := by
    simpa [EndsEarly] using late
  obtain ⟨⟨book, opened⟩, ⟨status, done⟩⟩ := both
  obtain ⟨i, inspected, same⟩ := carryOut_eq_ok done
  refine ⟨i, inspected, ?_⟩
  rw [← exitStatus_value, ← same]
  have ended : (run env w o).ending = .ok status := by
    rw [run_ending, opened]
    exact done
  simp only [RunResult.exitCode, ended]

end Run

/-- A run that is ended early has the exit status one. Any other run has it exactly when `--ci` was given and a
file that was selected and audited has an unsafe conversion, and has the exit status zero otherwise; so it has
the exit status zero when that code is left out. -/
theorem exitCode_law (env : Environment) (w : Workspace) (arguments : List String) (o : Options)
    (accepted : readOptions arguments = .ok o) :
    (EndsEarly env w o → (run env w o).exitCode = 1) ∧
    (¬EndsEarly env w o →
      ((run env w o).exitCode = 1 ↔
        SwitchGiven .ci arguments ∧ FoundInSelected env (setUp env w o).1 o Code.unsafeCoercion) ∧
      ((run env w o).exitCode ≠ 1 → (run env w o).exitCode = 0) ∧
      (ValueGiven .disable Code.unsafeCoercion arguments → (run env w o).exitCode = 0)) := by
  refine ⟨exitCode_of_endsEarly, fun late => ?_⟩
  obtain ⟨i, inspected, same⟩ := exitCode_of_not_endsEarly late
  rw [same, ← ci_iff_given accepted, ← passed_eq_false_iff inspected]
  refine ⟨?_, ?_, fun given => ?_⟩
  · split <;> simp_all
  · split <;> simp_all
  · have leftOut : .value Code.unsafeCoercion ∈ o.disable := mem_disable_of_given accepted given
    have absent : ¬FoundInSelected env (setUp env w o).1 o Code.unsafeCoercion := not_found_of_disabled leftOut
    rw [← passed_eq_false_iff inspected] at absent
    rw [if_neg fun both => absent both.2]

def plainEnvironment : Environment := ⟨[], ⟨none, []⟩, false, 1, ⟨"now", "now", "now"⟩⟩

def conversionFolder : Workspace :=
  ⟨.directory [("a.py", .file [105, 110, 116, 40, 120, 41, 10])], []⟩

def inCi (leftOut : List String) : Options :=
  { Options.default with ci := true, disable := leftOut.map .value }

theorem exitCode_of_conversionFolder :
    (readOptions ["--ci"] = .ok (inCi []) ∧ (run plainEnvironment conversionFolder (inCi [])).exitCode = 1 ∧
      FoundInSelected plainEnvironment (setUp plainEnvironment conversionFolder (inCi [])).1 (inCi [])
        Code.unsafeCoercion) ∧
    readOptions ["--ci", "--disable", Code.unsafeCoercion] = .ok (inCi [Code.unsafeCoercion]) ∧
      (run plainEnvironment conversionFolder (inCi [Code.unsafeCoercion])).exitCode = 0 := by
  constructor
  · have accepted : readOptions ["--ci"] = .ok (inCi []) := by decide +kernel
    have late : ¬EndsEarly plainEnvironment conversionFolder (inCi []) :=
      not_or.2 ⟨not_not.2 (.of_isOk (by decide +kernel)), not_not.2 (.of_isOk (by decide +kernel))⟩
    have failing : (run plainEnvironment conversionFolder (inCi [])).exitCode = 1 := by decide +kernel
    have law := (exitCode_law plainEnvironment conversionFolder ["--ci"] (inCi []) accepted).2 late
    exact ⟨accepted, failing, (law.1.1 failing).2⟩
  · have accepted : readOptions ["--ci", "--disable", Code.unsafeCoercion] = .ok (inCi [Code.unsafeCoercion]) := by
      decide +kernel
    have late : ¬EndsEarly plainEnvironment conversionFolder (inCi [Code.unsafeCoercion]) :=
      not_or.2 ⟨not_not.2 (.of_isOk (by decide +kernel)), not_not.2 (.of_isOk (by decide +kernel))⟩
    have given : ValueGiven .disable Code.unsafeCoercion ["--ci", "--disable", Code.unsafeCoercion] :=
      ⟨[.option (.switch .ci) "--ci" none, .option (.setting .disable) "--disable" none,
          .plain Code.unsafeCoercion],
        "--disable", by decide +kernel, .inr ⟨[.option (.switch .ci) "--ci" none], [], rfl⟩⟩
    have law := (exitCode_law plainEnvironment conversionFolder _ _ accepted).2 late
    exact ⟨accepted, law.2.2 given⟩

end TypingAudit.Command
