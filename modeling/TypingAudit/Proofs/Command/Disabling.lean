import TypingAudit.Proofs.Audit.Conversions
import TypingAudit.Proofs.Audit.Disabling
import TypingAudit.Proofs.Command.Units

/-!
Runs that leave out codes. Such a run goes the same way as the run that leaves out none, up to its report for
machines, and writes there what that run writes, less the issues of these codes: the number of files stays, and all
other figures are those of the issues that are left.
-/

namespace TypingAudit.Command

open Audit Selection Storage Summary Workspace

def Options.plain (o : Options) : Options := { o with disable := [] }

section Results

variable {results : List UnitResult} (codes : List String)

theorem allFindings_without :
    allFindings (results.map (·.without codes)) = withoutCodes codes (allFindings results) := by
  rw [allFindings, allFindings, List.flatMap_map, withoutCodes, List.filter_flatMap]
  rfl

theorem separate_without (separate : Report.Separate results) : Report.Separate (results.map (·.without codes)) := by
  refine ⟨?_, ?_⟩
  · rw [List.map_map]
    exact separate.distinct
  · intro r member f found
    obtain ⟨whole, listed, rfl⟩ := List.mem_map.1 member
    exact separate.own whole listed f (List.mem_filter.1 found).1

theorem known_without (known : firstUnknown? (allFindings results) = none) :
    firstUnknown? (allFindings (results.map (·.without codes))) = none := by
  rw [firstUnknown?_eq_none_iff] at known ⊢
  intro f found
  rw [allFindings_without] at found
  exact known f (List.mem_filter.1 found).1

end Results

section Stages

variable {env : Environment} {w : Workspace} {o : Options} {codes : List String}

theorem disabledCodes_value (disabled : o.disable = codes.map .value) : (disabledCodes o).run.value = .ok codes := by
  have values : o.disable.mapM Given.value? = some codes := by
    rw [disabled]
    clear disabled
    induction codes with
    | nil => rfl
    | cons code codes ih => simp [Given.value?, ih]
  unfold disabledCodes
  rw [values]
  rfl

theorem standard_without (codes : List String) : RuleSet.standard codes = (RuleSet.standard []).without codes :=
  (RuleSet.without_without _ (by simp)).symm

theorem settle_without (skipErrors : Bool) (codes : List String) (outcomes : List Outcome) :
    (settle skipErrors (outcomes.map (Outcome.without · codes))).value =
      (settle skipErrors outcomes).value.map (List.map (·.without codes)) := by
  rw [settle_value, settle_value, failed_without, succeeded_without]
  cases skipErrors <;> cases failed outcomes <;> rfl

theorem auditResults_without (disabled : o.disable = codes.map .value) (units : List SourceFile) :
    (auditResults env w o units).run.value =
      (auditResults env w o.plain units).run.value.map (List.map (·.without codes)) := by
  have wellFormed := (RuleSet.isNative_standard []).wellFormed
  have none : o.plain.disable = [].map .value := rfl
  have jobs : jobCount o.plain = jobCount o := rfl
  unfold auditResults
  simp only [Stage.bind_value, Stage.ofExcept_value, disabledCodes_value disabled, disabledCodes_value none, jobs]
  cases (jobCount o).run.value with
  | error fatal => rfl
  | ok jobs =>
    change ((auditUnits w (RuleSet.standard codes) env.processors jobs units).value.mapError Fatal.escape >>=
        fun outcomes => (settle o.skipErrors outcomes).value.mapError Fatal.unit) =
      ((auditUnits w (RuleSet.standard []) env.processors jobs units).value.mapError Fatal.escape >>=
        fun outcomes => (settle o.skipErrors outcomes).value.mapError Fatal.unit).map _
    rw [standard_without codes, auditUnits_without wellFormed]
    cases (auditUnits w (RuleSet.standard []) env.processors jobs units).value with
    | error e => rfl
    | ok outcomes =>
      change (settle o.skipErrors (outcomes.map (Outcome.without · codes))).value.mapError Fatal.unit =
        ((settle o.skipErrors outcomes).value.mapError Fatal.unit).map _
      rw [settle_without]
      cases (settle o.skipErrors outcomes).value <;> rfl

/-- Leaving out codes changes what the first half of a run comes to in its findings alone. -/
theorem inspect_without (disabled : o.disable = codes.map .value)
    (distinct : ∀ units, (selectUnits env w o).run.value = .ok units → (units.map SourceFile.unitPath).Nodup) :
    (∃ fatal, (inspect env w o.plain).run.value = .error fatal ∧ (inspect env w o).run.value = .error fatal) ∨
      ∃ json markdown results, Report.Separate results ∧
        (inspect env w o.plain).run.value = .ok ⟨json, markdown, runOf env.clock.inReport results⟩ ∧
        (inspect env w o).run.value =
          .ok ⟨json, markdown, runOf env.clock.inReport (results.map (·.without codes))⟩ := by
  have jsonPath : reportPath env o.plain.jsonReport = reportPath env o.jsonReport := rfl
  have markdownPath : reportPath env o.plain.markdownReport = reportPath env o.markdownReport := rfl
  have units : selectUnits env w o.plain = selectUnits env w o := rfl
  unfold inspect
  simp only [Stage.bind_value, Stage.ofLogged_value, Stage.ofExcept_value, jsonPath, markdownPath, units,
    auditResults_without disabled]
  cases (reportPath env o.jsonReport Variable.jsonReport defaultJsonReport).run.value with
  | error fatal => exact .inl ⟨fatal, rfl, rfl⟩
  | ok json =>
    cases (reportPath env o.markdownReport Variable.markdownReport defaultMarkdownReport).run.value with
    | error fatal => exact .inl ⟨fatal, rfl, rfl⟩
    | ok markdown =>
      cases selected : (selectUnits env w o).run.value with
      | error fatal => exact .inl ⟨fatal, rfl, rfl⟩
      | ok units =>
        cases audited : (auditResults env w o.plain units).run.value with
        | error fatal =>
          refine .inl ⟨fatal, ?_, ?_⟩
          · change (auditResults env w o.plain units).run.value >>= _ = _
            rw [audited]
            rfl
          · change (auditResults env w o.plain units).run.value.map _ >>= _ = _
            rw [audited]
            rfl
        | ok results =>
          right
          obtain ⟨none, outcomes, -, paired, rfl, -⟩ := auditResults_eq_ok audited
          have known := known_succeeded paired
          refine ⟨json, markdown, _, separate_succeeded (distinct units selected) paired, ?_, ?_⟩
          · change (auditResults env w o.plain units).run.value >>= _ = _
            rw [audited]
            change (summarize env.clock.inReport _).mapError Fatal.severity >>= _ = _
            rw [summarize_of_known known]
            rfl
          · change (auditResults env w o.plain units).run.value.map _ >>= _ = _
            rw [audited]
            change (summarize env.clock.inReport _).mapError Fatal.severity >>= _ = _
            rw [summarize_of_known (known_without codes known)]
            rfl

end Stages

section Writing

variable {env : Environment} {w : Workspace} {o : Options}

/-- The run writes a text as its report for machines: its log is set up, its sources are inspected, and the report
on what came of it is written to the file. -/
structure WritesReport (env : Environment) (w : Workspace) (o : Options) (file : Location) (text : String) : Prop where
  logged : Succeeds (setUp env w o).2
  placed : jsonFile? env w o = some file
  written : ∃ i after, inspection env w o = .ok i ∧ text = Report.structuredText i.run ∧
    TextWritten (setUp env w o).1 after i.jsonPath text

theorem WritesReport.contentAt {file : Location} {text : String} (writes : WritesReport env w o file text)
    (standing : w.Standing) (different : FilesDiffer env w o) :
    (run env w o).workspace.contentAt file = some text.toUTF8.toList := by
  obtain ⟨⟨book, opened⟩, placed, i, middle, inspected, rfl, json⟩ := writes
  cases course_run standing different with
  | noLog fatal ending silent kept failed => cases failed.symm.trans opened
  | stopped log fatal logPlaced ending silent kept failed => cases failed.symm.trans inspected
  | delivered log d i' logPlaced ending printed logged inspected' before delivered after =>
    cases inspected.symm.trans inspected'
    have here : file = i.jsonPath.resolve w.directory :=
      Option.some.inj (placed.symm.trans (jsonFile?_of_inspection inspected))
    have notLog := different.json_ne_log placed logPlaced
    have notMarkdown := different.json_ne_markdown placed (markdownFile?_of_inspection inspected)
    rw [after.contents _ (by simpa using notLog.symm)]
    rw [here, ← before.directory] at notMarkdown ⊢
    exact delivered.contentAt_json json notMarkdown

structure EndsUnwritten (env : Environment) (w : Workspace) (o : Options) (fatal : Fatal) : Prop where
  ending : (run env w o).ending = .error fatal
  unwritten : ∀ file text, ¬WritesReport env w o file text

theorem endsUnwritten_of_noLog {fatal : Fatal} (failed : (setUp env w o).2 = .error fatal) :
    EndsUnwritten env w o fatal := by
  refine ⟨(run_of_noLog failed).1, ?_⟩
  rintro file text ⟨⟨book, opened⟩, -, -⟩
  cases failed.symm.trans opened

theorem endsUnwritten_of_fault {book : LogBook} {fatal : Fatal} (opened : (setUp env w o).2 = .ok book)
    (failed : inspection env w o = .error fatal) : EndsUnwritten env w o fatal := by
  refine ⟨(run_of_log opened).1.trans (execution_of_fault failed).1, ?_⟩
  rintro file text ⟨-, -, i, after, inspected, -, -⟩
  cases failed.symm.trans inspected

theorem endsUnwritten_of_refused {book : LogBook} {i : Inspected} {fault : Fault}
    (opened : (setUp env w o).2 = .ok book) (inspected : inspection env w o = .ok i)
    (refused : (writeText (setUp env w o).1 i.jsonPath (Report.structuredText i.run)).fault = some fault) :
    EndsUnwritten env w o (.report i.jsonPath fault) := by
  constructor
  · rw [(run_of_log opened).1]
    unfold inspection at inspected
    unfold execution carryOut
    dsimp only
    rw [inspected]
    dsimp only
    unfold deliver
    dsimp only
    rw [refused]
  · rintro file text ⟨-, -, i', after, inspected', rfl, json⟩
    cases inspected.symm.trans inspected'
    rw [json.done] at refused
    cases refused

theorem writesReport_of_accepted {book : LogBook} {i : Inspected} (standing : w.Standing)
    (opened : (setUp env w o).2 = .ok book) (inspected : inspection env w o = .ok i)
    (accepted : (writeText (setUp env w o).1 i.jsonPath (Report.structuredText i.run)).fault = none) :
    WritesReport env w o (i.jsonPath.resolve w.directory) (Report.structuredText i.run) := by
  refine ⟨⟨book, opened⟩, jsonFile?_of_inspection inspected, i, ?_⟩
  rcases writeText_cases (standing_setUp standing) i.jsonPath (Report.structuredText i.run) with
    ⟨after, fault, came, -⟩ | ⟨after, json⟩
  · rw [came] at accepted
    cases accepted
  · exact ⟨after, inspected, rfl, json⟩

end Writing

/-- How a run that leaves out codes compares with the run that leaves out none: the same fault ends both before the
report for machines, or both write it to the same file, the one without the issues of these codes. -/
inductive FiltersReport (env : Environment) (w : Workspace) (whole part : Options) (codes : List String) : Prop where
  | neither (fatal : Fatal) (wholeEnds : EndsUnwritten env w whole fatal) (partEnds : EndsUnwritten env w part fatal)
  | both (file : Location) (totalUnits : Nat) (issues : List Finding)
      (written : WritesReport env w whole file (Report.recountedText env.clock.inReport totalUnits issues))
      (filtered : WritesReport env w part file
        (Report.recountedText env.clock.inReport totalUnits (withoutCodes codes issues)))
      (contents : FilesDiffer env w whole →
        (run env w whole).workspace.contentAt file =
            some (Report.recountedText env.clock.inReport totalUnits issues).toUTF8.toList ∧
          (run env w part).workspace.contentAt file =
            some (Report.recountedText env.clock.inReport totalUnits (withoutCodes codes issues)).toUTF8.toList)

section Comparing

variable {env : Environment} {w : Workspace} {o : Options} {codes : List String}

theorem setUp_plain : setUp env w o.plain = setUp env w o := rfl

theorem filesDiffer_plain : FilesDiffer env w o.plain ↔ FilesDiffer env w o := Iff.rfl

theorem filtersReport_plain (wellFormed : w.WellFormed) (disabled : o.disable = codes.map .value) :
    FiltersReport env w o.plain o codes := by
  have standing := wellFormed.toStanding
  cases opened : (setUp env w o).2 with
  | error fatal => exact .neither fatal (endsUnwritten_of_noLog (setUp_plain ▸ opened)) (endsUnwritten_of_noLog opened)
  | ok book =>
    have opened' : (setUp env w o.plain).2 = .ok book := setUp_plain ▸ opened
    have distinct (units : List SourceFile) (selected : (selectUnits env (setUp env w o).1 o).run.value = .ok units) :
        (units.map SourceFile.unitPath).Nodup := nodup_selectUnits wellFormed selected
    rcases inspect_without disabled distinct with
      ⟨fatal, whole, part⟩ | ⟨json, markdown, results, separate, whole, part⟩
    · exact .neither fatal (endsUnwritten_of_fault opened' whole) (endsUnwritten_of_fault opened part)
    · have wholeText := separate.structuredText_runOf env.clock.inReport
      have partText := (separate_without codes separate).structuredText_runOf env.clock.inReport
      rw [List.length_map, allFindings_without] at partText
      -- whether a text can be written does not depend on the text
      have sameFault :
          (writeText (setUp env w o).1 json (Report.structuredText (runOf env.clock.inReport results))).fault =
          (writeText (setUp env w o).1 json
            (Report.structuredText (runOf env.clock.inReport (results.map (·.without codes))))).fault :=
        fault_writeFileBelow _ _ _ _
      cases came : (writeText (setUp env w o).1 json
          (Report.structuredText (runOf env.clock.inReport results))).fault with
      | some fault =>
        exact .neither (.report json fault) (endsUnwritten_of_refused opened' whole came)
          (endsUnwritten_of_refused opened part (sameFault.symm.trans came))
      | none =>
        have written := writesReport_of_accepted standing opened' whole came
        have filtered := writesReport_of_accepted standing opened part (sameFault.symm.trans came)
        rw [wholeText] at written
        rw [partText] at filtered
        refine .both _ _ _ written filtered fun different => ?_
        exact ⟨written.contentAt standing different, filtered.contentAt standing (filesDiffer_plain.1 different)⟩

end Comparing

/-- Leaving out codes filters what is found. A set of rules of which none returns a value that cannot be read finds
without the rules of some codes what it finds with them, less the findings of these codes and in the same order;
leaving out codes twice is leaving out both at once; a run that leaves out codes writes the report of the run that
leaves out none, less the issues of these codes, with the same number of files and all else counted anew; and known
codes may be given in front of every command line that is accepted. -/
theorem disabling_filters :
    (∀ s : RuleSet, s.WellFormed → ∀ (codes : List String) unitPath tree facts, ∃ findings,
      (s.audit unitPath (.tree tree) facts).value = .ok ⟨unitPath, findings⟩ ∧
        ((s.without codes).audit unitPath (.tree tree) facts).value = .ok ⟨unitPath, withoutCodes codes findings⟩) ∧
    (∀ (s : RuleSet) (first second both : List String), (∀ code, code ∈ both ↔ code ∈ first ∨ code ∈ second) →
      (s.without first).without second = s.without both) ∧
    (∀ (env : Environment) (w : Workspace) (o : Options) (codes : List String), w.WellFormed →
      o.disable = codes.map .value → FiltersReport env w o.plain o codes) ∧
    ∀ (arguments : List String) (o : Options) (codes : List String), readOptions arguments = .ok o →
      o.disable = [] → (∀ code ∈ codes, code ∈ Code.all) →
      ∃ part, readOptions ((codes.flatMap fun code => ["--disable", code]) ++ arguments) = .ok part ∧
        part.disable = codes.map .value ∧ part.plain = o := by
  refine ⟨?_, fun s first second both => s.without_without, fun env w o codes => filtersReport_plain, ?_⟩
  · intro s wellFormed codes unitPath tree facts
    have audited := RuleSet.audit_value wellFormed unitPath tree facts
    refine ⟨_, audited, ?_⟩
    rw [RuleSet.audit_without wellFormed, audited]
    rfl
  · intro arguments o codes accepted none listed
    refine ⟨_, readOptions_disabling accepted listed, ?_, ?_⟩
    · rw [Options.disabling, none, List.append_nil]
    · change { o with disable := [] } = o
      rw [← none]

theorem conversionFolder_filtered :
    (∃ findings,
      ((RuleSet.standard []).audit "a.py" (.tree nestedConversions.tree)
          (Typing.ModuleTypes.ofImports (Typing.importMap nestedConversions.tree)).facts).value =
        .ok ⟨"a.py", findings⟩ ∧
      (((RuleSet.standard []).without [Code.unsafeCoercion]).audit "a.py" (.tree nestedConversions.tree)
          (Typing.ModuleTypes.ofImports (Typing.importMap nestedConversions.tree)).facts).value =
        .ok ⟨"a.py", withoutCodes [Code.unsafeCoercion] findings⟩) ∧
    ((RuleSet.standard []).without [Code.unsafeCoercion]).without [Code.typeAssertion] =
      (RuleSet.standard []).without [Code.typeAssertion, Code.unsafeCoercion] ∧
    (∃ part, readOptions ["--disable", Code.unsafeCoercion, "--ci"] = .ok part ∧ part.plain = inCi []) ∧
    conversionFolder.WellFormed ∧
    ∃ file totalUnits issues,
      (run plainEnvironment conversionFolder (inCi [])).workspace.contentAt file =
        some (Report.recountedText "now" totalUnits issues).toUTF8.toList ∧
      (run plainEnvironment conversionFolder (inCi [Code.unsafeCoercion])).workspace.contentAt file =
        some (Report.recountedText "now" totalUnits (withoutCodes [Code.unsafeCoercion] issues)).toUTF8.toList := by
  obtain ⟨audit, twice, filters, read⟩ := disabling_filters
  have wellFormed : conversionFolder.WellFormed :=
    ⟨.directory _ (by decide) (by decide) (by simp [FileTree.Named.file]), ⟨_, rfl⟩⟩
  refine ⟨?_, ?_, ?_, wellFormed, ?_⟩
  · exact audit _ (RuleSet.isNative_standard []).wellFormed _ _ _ _
  · exact twice _ _ _ _ (by simp [or_comm])
  · obtain ⟨part, accepted, -, same⟩ :=
      read ["--ci"] (inCi []) [Code.unsafeCoercion] (by decide +kernel) rfl (by decide)
    exact ⟨part, accepted, same⟩
  · cases filters plainEnvironment conversionFolder (inCi [Code.unsafeCoercion]) [Code.unsafeCoercion] wellFormed
      rfl with
    | neither fatal wholeEnds partEnds =>
      have succeeds : Succeeds (run plainEnvironment conversionFolder (inCi [])).ending := .of_isOk (by decide +kernel)
      obtain ⟨status, ended⟩ := succeeds
      cases wholeEnds.ending.symm.trans ended
    | both file totalUnits issues written filtered contents =>
      exact ⟨file, totalUnits, issues, contents (by decide +kernel)⟩

end TypingAudit.Command
