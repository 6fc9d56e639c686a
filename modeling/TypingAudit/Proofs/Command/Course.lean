import TypingAudit.Proofs.Command.ExitStatus
import TypingAudit.Proofs.Storage.Changes
import TypingAudit.Proofs.Storage.Paths

/-!
What a run does to files. The log is set up first and nothing else is touched while the sources are inspected;
then the report for machines is written, after it the one for readers, and only when all of this has gone well
are the figures printed.
-/

namespace TypingAudit.Command

open Audit Selection Storage Summary Workspace

section Places

variable (env : Environment) (w : Workspace) (o : Options)

def jsonFile? : Option Location :=
  (reportPath env o.jsonReport Variable.jsonReport defaultJsonReport).run.value.toOption.map
    (Path.resolve w.directory)

def markdownFile? : Option Location :=
  (reportPath env o.markdownReport Variable.markdownReport defaultMarkdownReport).run.value.toOption.map
    (Path.resolve w.directory)

def logName : String := "type_safety_" ++ env.clock.inName ++ ".log"

def logFile? : Option Location :=
  (o.logDirectory.value?.bind fun given => (Path.ofString given).expandHome env.homes).map fun path =>
    path.resolve w.directory ++ [logName env]

def FilesDiffer : Prop := ([jsonFile? env w o, markdownFile? env w o, logFile? env w o].filterMap id).Nodup

instance : Decidable (FilesDiffer env w o) := inferInstanceAs (Decidable (List.Nodup _))

end Places

namespace FilesDiffer

variable {env : Environment} {w : Workspace} {o : Options} {json markdown log : Location}

theorem json_ne_markdown (different : FilesDiffer env w o) (first : jsonFile? env w o = some json)
    (second : markdownFile? env w o = some markdown) : markdown ≠ json := by
  rintro rfl
  unfold FilesDiffer at different
  rw [first, second] at different
  simp at different

theorem json_ne_log (different : FilesDiffer env w o) (first : jsonFile? env w o = some json)
    (third : logFile? env w o = some log) : log ≠ json := by
  rintro rfl
  unfold FilesDiffer at different
  rw [first, third] at different
  generalize markdownFile? env w o = second at different
  cases second <;> simp at different

theorem markdown_ne_log (different : FilesDiffer env w o) (second : markdownFile? env w o = some markdown)
    (third : logFile? env w o = some log) : log ≠ markdown := by
  rintro rfl
  unfold FilesDiffer at different
  rw [second, third] at different
  generalize jsonFile? env w o = first at different
  cases first <;> simp at different

end FilesDiffer

theorem logName_ne (env : Environment) : logName env ≠ ".." := by
  intro same
  have lengths := congrArg String.length same
  simp only [logName, String.length_append] at lengths
  have start : "type_safety_".length = 12 := by decide
  have two : "..".length = 2 := by decide
  omega

section SetUp

variable {env : Environment} {w : Workspace} {o : Options}

/-- The two ways in which setting up the log can go: no file has changed, or the log file alone has. -/
inductive SetsUp (env : Environment) (w : Workspace) (o : Options) : Workspace × Except Fatal LogBook → Prop where
  | failed (after : Workspace) (fatal : Fatal) (kept : ChangesWithin [] w after) : SetsUp env w o (after, .error fatal)
  | opened (after : Workspace) (book : LogBook) (placed : logFile? env w o = some book.path.segments)
      (changed : ChangesWithin [book.path.segments] w after)
      (started : after.contentAt book.path.segments = some book.earlier) : SetsUp env w o (after, .ok book)

theorem setsUp_openLog (standing : w.Standing) (style : Console.Style) : SetsUp env w o (openLog env w style o) := by
  unfold openLog
  cases given : o.logDirectory with
  | nothing => exact .failed _ _ (.refl standing)
  | value text =>
    dsimp only
    cases expanded : (Path.ofString text).expandHome env.homes with
    | none => exact .failed _ _ (.refl standing)
    | some path =>
      cases o.logLevel with
      | nothing => exact .failed _ _ (.refl standing)
      | value level =>
        dsimp only
        generalize place : path.resolve w.directory = directory
        have plain : ".." ∉ directory := place ▸ Path.plain_resolve standing.plain path
        have placed : logFile? env w o = some (directory ++ [logName env]) := by
          simp [logFile?, given, Given.value?, expanded, place]
        have made := changesWithin_ensureDirectories standing (Path.ofLocation directory)
        generalize w.ensureDirectories (Path.ofLocation directory) = attempt at made
        obtain ⟨middle, fault⟩ := attempt
        cases fault with
        | some fault => exact .failed _ _ made
        | none =>
          dsimp only
          rw [show "type_safety_" ++ env.clock.inName ++ ".log" = logName env from rfl]
          generalize ((middle.readFile _).toOption).getD [] = earlier
          have wrote := writes_writeFile made.standing ((Path.ofLocation directory).child (logName env)) earlier
          have leads : ((Path.ofLocation directory).child (logName env)).resolve middle.directory =
              directory ++ [logName env] := by
            rw [Path.resolve_child _ _ (logName_ne env), Path.resolve_ofLocation _ plain]
          rw [leads] at wrote
          generalize middle.writeFile _ earlier = attempt at wrote
          cases wrote with
          | failed after fault kept => exact .failed _ _ (made.trans kept)
          | written after changed written => exact .opened _ _ placed (made.trans changed) written

end SetUp

/-- The text was written to the file that the path leads to, and no other file has changed. -/
structure TextWritten (w after : Workspace) (path : Path) (text : String) : Prop where
  done : writeText w path text = ⟨after, none⟩
  changed : ChangesWithin [path.resolve w.directory] w after
  content : after.contentAt (path.resolve w.directory) = some text.toUTF8.toList

theorem writeText_cases {w : Workspace} (standing : w.Standing) (path : Path) (text : String) :
    (∃ after fault, writeText w path text = ⟨after, some fault⟩ ∧ ChangesWithin [] w after) ∨
      ∃ after, TextWritten w after path text := by
  have wrote : Writes w (path.resolve w.directory) text.toUTF8.toList (writeText w path text) :=
    writes_writeFileBelow standing path text.toUTF8.toList
  generalize came : writeText w path text = attempt at wrote
  cases wrote with
  | failed after fault kept => exact Or.inl ⟨after, fault, rfl, kept⟩
  | written after changed written => exact Or.inr ⟨after, came, changed, written⟩

/-- The ways in which the second half of a run can go: nothing is written, or only the report for machines, or
all that the run is to write. -/
inductive Delivered (w : Workspace) (ci : Bool) (i : Inspected) (d : Delivery) : Prop where
  | nothing (fatal : Fatal) (ending : d.ending = .error fatal) (silent : d.output = "")
      (kept : ChangesWithin [] w d.workspace)
      (refused : ∃ after fault, writeText w i.jsonPath (Report.structuredText i.run) = ⟨after, some fault⟩)
  | jsonOnly (middle : Workspace) (fatal : Fatal) (ending : d.ending = .error fatal) (silent : d.output = "")
      (json : TextWritten w middle i.jsonPath (Report.structuredText i.run))
      (kept : ChangesWithin [] middle d.workspace)
  | complete (middle : Workspace) (ending : d.ending = .ok (Report.exitStatus ci i.run).value)
      (printed : d.output = Report.overviewText i.run)
      (json : TextWritten w middle i.jsonPath (Report.structuredText i.run))
      (markdown : ci = true ∧ d.workspace = middle ∨
        ci = false ∧ TextWritten middle d.workspace i.markdownPath (Report.markdownText i.run))

theorem delivered_deliver {w : Workspace} (standing : w.Standing) (ci : Bool) (i : Inspected) :
    Delivered w ci i (deliver w ci i) := by
  unfold deliver
  rcases writeText_cases standing i.jsonPath (Report.structuredText i.run) with
    ⟨after, fault, came, kept⟩ | ⟨middle, json⟩
  · rw [came]
    exact .nothing _ rfl rfl kept ⟨after, fault, came⟩
  · rw [json.done]
    unfold deliverMarkdown
    dsimp only
    cases ci with
    | true => exact .complete middle rfl rfl json (Or.inl ⟨rfl, rfl⟩)
    | false =>
      rcases writeText_cases json.changed.standing i.markdownPath (Report.markdownText i.run) with
        ⟨after, fault, came, kept⟩ | ⟨after, markdown⟩
      · rw [if_neg Bool.false_ne_true, came]
        exact .jsonOnly middle _ rfl rfl json kept
      · rw [if_neg Bool.false_ne_true, markdown.done]
        exact .complete middle rfl rfl json (Or.inr ⟨rfl, markdown⟩)

def inspection (env : Environment) (w : Workspace) (o : Options) : Except Fatal Inspected :=
  (inspect env (setUp env w o).1 o).run.value

section Run

variable {env : Environment} {w : Workspace} {o : Options}

theorem execution_of_fault {fatal : Fatal} (failed : inspection env w o = .error fatal) :
    (execution env w o).ending = .error fatal ∧ (execution env w o).output = "" ∧
      (execution env w o).workspace = (setUp env w o).1 := by
  unfold inspection at failed
  unfold execution carryOut
  dsimp only
  rw [failed]
  exact ⟨rfl, rfl, rfl⟩

theorem delivered_execution {i : Inspected} (standing : (setUp env w o).1.Standing)
    (inspected : inspection env w o = .ok i) : Delivered (setUp env w o).1 o.ci i (execution env w o) := by
  unfold inspection at inspected
  unfold execution carryOut
  dsimp only
  rw [inspected]
  -- the log of a delivery is longer in a whole run, but nothing here is about the log
  cases delivered_deliver standing o.ci i with
  | nothing fatal ending silent kept refused => exact .nothing fatal ending silent kept refused
  | jsonOnly middle fatal ending silent json kept => exact .jsonOnly middle fatal ending silent json kept
  | complete middle ending printed json markdown => exact .complete middle ending printed json markdown

theorem run_of_noLog {fatal : Fatal} (failed : (setUp env w o).2 = .error fatal) :
    (run env w o).ending = .error fatal ∧ (run env w o).output = "" ∧
      (run env w o).workspace = (setUp env w o).1 := by
  unfold setUp at failed ⊢
  unfold run
  dsimp only
  generalize openLog env w _ o = opened at failed
  obtain ⟨after, result⟩ := opened
  cases failed
  exact ⟨rfl, rfl, rfl⟩

theorem run_of_log {book : LogBook} (opened : (setUp env w o).2 = .ok book) :
    (run env w o).ending = (execution env w o).ending ∧ (run env w o).output = (execution env w o).output ∧
      ∃ content, (run env w o).workspace = (execution env w o).workspace.put book.path.segments (.file content) := by
  unfold execution
  unfold setUp at opened ⊢
  unfold run
  dsimp only
  generalize openLog env w _ o = opening at opened
  obtain ⟨after, result⟩ := opening
  cases opened
  exact ⟨rfl, rfl, _, rfl⟩

theorem jsonFile?_of_inspection {i : Inspected} (inspected : inspection env w o = .ok i) :
    jsonFile? env w o = some (i.jsonPath.resolve w.directory) := by
  rw [jsonFile?, (reportPath_of_inspect inspected).1]
  rfl

theorem markdownFile?_of_inspection {i : Inspected} (inspected : inspection env w o = .ok i) :
    markdownFile? env w o = some (i.markdownPath.resolve w.directory) := by
  rw [markdownFile?, (reportPath_of_inspect inspected).2]
  rfl

/-- The course of a run. It has no log, or a log and no result, or its results are delivered between two changes
of the log. -/
inductive Course (env : Environment) (w : Workspace) (o : Options) (r : RunResult) : Prop where
  | noLog (fatal : Fatal) (ending : r.ending = .error fatal) (silent : r.output = "")
      (kept : ChangesWithin [] w r.workspace) (failed : (setUp env w o).2 = .error fatal)
  | stopped (log : Location) (fatal : Fatal) (placed : logFile? env w o = some log)
      (ending : r.ending = .error fatal) (silent : r.output = "") (kept : ChangesWithin [log] w r.workspace)
      (failed : inspection env w o = .error fatal)
  | delivered (log : Location) (d : Delivery) (i : Inspected) (placed : logFile? env w o = some log)
      (ending : r.ending = d.ending) (printed : r.output = d.output)
      (logged : Succeeds (setUp env w o).2) (inspected : inspection env w o = .ok i)
      (before : ChangesWithin [log] w (setUp env w o).1)
      (delivered : Delivered (setUp env w o).1 o.ci i d)
      (after : ChangesWithin [log] d.workspace r.workspace)

theorem Delivered.contentAt_log {start : Workspace} {i : Inspected} {d : Delivery} {log : Location}
    (delivered : Delivered start o.ci i d) (notJson : log ≠ i.jsonPath.resolve start.directory)
    (notMarkdown : log ≠ i.markdownPath.resolve start.directory) :
    d.workspace.contentAt log = start.contentAt log := by
  cases delivered with
  | nothing fatal ending silent kept => exact kept.contents log (by simp)
  | jsonOnly middle fatal ending silent json kept =>
    exact (json.changed.trans kept).contents log (by simpa using notJson)
  | complete middle ending printed json markdown =>
    rcases markdown with ⟨-, same⟩ | ⟨-, markdown⟩
    · rw [same]
      exact json.changed.contents log (by simpa using notJson)
    · refine (json.changed.trans markdown.changed).contents log ?_
      rw [json.changed.directory]
      simp [notJson, notMarkdown]

/-- Once the report for machines is written, the rest of the run leaves it alone. -/
theorem Delivered.contentAt_json {start middle : Workspace} {ci : Bool} {i : Inspected} {d : Delivery}
    (delivered : Delivered start ci i d)
    (json : TextWritten start middle i.jsonPath (Report.structuredText i.run))
    (different : i.markdownPath.resolve start.directory ≠ i.jsonPath.resolve start.directory) :
    d.workspace.contentAt (i.jsonPath.resolve start.directory) =
      some (Report.structuredText i.run).toUTF8.toList := by
  cases delivered with
  | nothing fatal ending silent kept refused =>
    obtain ⟨after, fault, came⟩ := refused
    cases came.symm.trans json.done
  | jsonOnly other fatal ending silent json kept =>
    rw [kept.contents _ (by simp)]
    exact json.content
  | complete other ending printed json markdown =>
    rcases markdown with ⟨-, same⟩ | ⟨-, markdown⟩
    · rw [same]
      exact json.content
    · rw [markdown.changed.contents _ ?_]
      · exact json.content
      · rw [json.changed.directory]
        simpa using different.symm

theorem Delivered.standing {start : Workspace} {i : Inspected} {d : Delivery} {ci : Bool}
    (delivered : Delivered start ci i d) : d.workspace.Standing := by
  cases delivered with
  | nothing fatal ending silent kept => exact kept.standing
  | jsonOnly middle fatal ending silent json kept => exact kept.standing
  | complete middle ending printed json markdown =>
    rcases markdown with ⟨-, same⟩ | ⟨-, markdown⟩
    · rw [same]
      exact json.changed.standing
    · exact markdown.changed.standing

theorem course_run (standing : w.Standing) (different : FilesDiffer env w o) : Course env w o (run env w o) := by
  have started : SetsUp env w o (setUp env w o) := setsUp_openLog standing _
  generalize begun : setUp env w o = start at started
  cases started with
  | failed after fatal kept =>
    have failed : (setUp env w o).2 = .error fatal := by rw [begun]
    obtain ⟨ending, silent, same⟩ := run_of_noLog failed
    rw [begun] at same
    exact .noLog fatal ending silent (same ▸ kept) failed
  | opened after book placed changed started =>
    have opened : (setUp env w o).2 = .ok book := by rw [begun]
    have first : (setUp env w o).1 = after := by rw [begun]
    obtain ⟨ending, printed, content, last⟩ := run_of_log opened
    cases result : inspection env w o with
    | error fatal =>
      obtain ⟨fault, silent, same⟩ := execution_of_fault result
      rw [first] at same
      rw [same] at last
      have logged := changesWithin_rewrite changed.standing started content
      refine .stopped _ fatal placed (ending.trans fault) (printed.trans silent) ?_ result
      rw [last]
      have both := changed.trans logged
      exact ⟨both.directory, both.standing, fun other outside => both.contents other (by simpa using outside)⟩
    | ok i =>
      rw [← first] at changed started
      have delivered := delivered_execution changed.standing result
      have kept : (execution env w o).workspace.contentAt book.path.segments = some book.earlier := by
        rw [← started]
        apply delivered.contentAt_log
        · rw [changed.directory]
          exact different.json_ne_log (jsonFile?_of_inspection result) placed
        · rw [changed.directory]
          exact different.markdown_ne_log (markdownFile?_of_inspection result) placed
      refine .delivered _ _ i placed ending printed ⟨book, opened⟩ result changed delivered ?_
      rw [last]
      exact changesWithin_rewrite delivered.standing kept content

end Run

end TypingAudit.Command
