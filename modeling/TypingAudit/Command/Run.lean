import TypingAudit.Command.Inspection
import TypingAudit.Console.Listing
import TypingAudit.Report.ExitStatus
import TypingAudit.Report.Markdown
import TypingAudit.Report.Overview
import TypingAudit.Report.Structured

/-!
A whole run: the log is set up, the sources are inspected, and only then are reports written and figures
printed. Whatever ends a run early is told once and makes its exit status one.
-/

namespace TypingAudit.Command

open Audit Console Storage Summary

structure RunResult where
  /-- The exit status of a run that came to its end, or what ended it early. -/
  ending : Except Fatal Nat
  /-- What was printed. -/
  output : String
  /-- What was shown to the user besides. -/
  messages : String
  workspace : Workspace

namespace RunResult

def exitCode (r : RunResult) : Nat :=
  match r.ending with
  | .ok status => status
  | .error _ => 1

end RunResult

/-- Where and how a run is logged, after what the log file held before. -/
structure LogBook where
  path : Path
  earlier : List UInt8
  level : LogLevel
  style : Style

structure Delivery where
  workspace : Workspace
  log : List LogRecord
  output : String
  ending : Except Fatal Nat

def writeText (w : Workspace) (path : Path) (text : String) : Attempt :=
  w.writeFileBelow path text.toUTF8.toList

def jsonWritten (i : Inspected) : LogRecord :=
  ⟨.info, "Structured report written to " ++ i.jsonPath.text⟩

def markdownWritten (i : Inspected) : LogRecord :=
  ⟨.info, "Markdown report written to " ++ i.markdownPath.text⟩

def concludeRun (w : Workspace) (ci : Bool) (run : Run) : Delivery :=
  let status := Report.exitStatus ci run
  ⟨w, status.log, Report.overviewText run, .ok status.value⟩

/-- Writes the Markdown report, which is left out for continuous integration, and concludes. -/
def deliverMarkdown (w : Workspace) (ci : Bool) (i : Inspected) : Delivery :=
  if ci then concludeRun w ci i.run
  else
    let attempt := writeText w i.markdownPath (Report.markdownText i.run)
    match attempt.fault with
    | some fault => ⟨attempt.workspace, [], "", .error (.report i.markdownPath fault)⟩
    | none =>
      let rest := concludeRun attempt.workspace ci i.run
      { rest with log := markdownWritten i :: rest.log }

def deliver (w : Workspace) (ci : Bool) (i : Inspected) : Delivery :=
  let attempt := writeText w i.jsonPath (Report.structuredText i.run)
  match attempt.fault with
  | some fault => ⟨attempt.workspace, [], "", .error (.report i.jsonPath fault)⟩
  | none =>
    let rest := deliverMarkdown attempt.workspace ci i
    { rest with log := jsonWritten i :: rest.log }

def carryOut (env : Environment) (w : Workspace) (style : Style) (o : Options) : Delivery :=
  let inspected := (inspect env w o).run
  match inspected.value with
  | .error fatal => ⟨w, inspected.log, "", .error fatal⟩
  | .ok i =>
    let listed := if o.listFindings then listing style i.run.findings else []
    let delivery := deliver w o.ci i
    { delivery with log := inspected.log ++ listed ++ delivery.log }

/-- Stands for the details of the fault after the record of one that ended the run. -/
def traceLine : String := "<traceback>"

def fatalRecord (f : Fatal) : LogRecord := ⟨.error, f.announcement ++ "\n" ++ traceLine⟩

def records (book : LogBook) (d : Delivery) : List LogRecord :=
  let start : LogRecord := ⟨.info, "Detailed execution log: " ++ book.path.text⟩
  match d.ending with
  | .ok _ => start :: d.log
  | .error fatal => start :: d.log ++ [fatalRecord fatal]

def LogBook.shown (book : LogBook) (log : List LogRecord) : List LogRecord :=
  log.filter fun r => decide (book.level.rank ≤ r.level.rank)

def consoleText (book : LogBook) (log : List LogRecord) : String :=
  String.join (log.map fun r => book.style.line r.level.rank r.level.name r.message ++ "\n")

def logText (clock : Clock) (log : List LogRecord) : String :=
  String.join (log.map fun r => clock.inLog ++ " " ++ r.level.name ++ " " ++ r.message ++ "\n")

def openLog (env : Environment) (w : Workspace) (style : Style) (o : Options) :
    Workspace × Except Fatal LogBook :=
  match o.logDirectory with
  | .nothing => (w, .error (.blank .logDirectory))
  | .value given =>
    match (Path.ofString given).expandHome env.homes with
    | none => (w, .error .unknownHome)
    | some path =>
      match o.logLevel with
      | .nothing => (w, .error (.blank .logLevel))
      | .value level =>
        let directory := Path.ofLocation (path.resolve w.directory)
        let made := w.ensureDirectories directory
        match made.fault with
        | some fault => (made.workspace, .error (.storage fault))
        | none =>
          let file := directory.child ("type_safety_" ++ env.clock.inName ++ ".log")
          let earlier := ((made.workspace.readFile file).toOption).getD []
          let opened := made.workspace.writeFile file earlier
          match opened.fault with
          | some fault => (opened.workspace, .error (.storage fault))
          | none => (opened.workspace, .ok ⟨file, earlier, (LogLevel.named? level).getD .info, style⟩)

def run (env : Environment) (w : Workspace) (o : Options) : RunResult :=
  let style := Style.choose o.noColor env.terminal (env.setting? Variable.noColor)
  match openLog env w style o with
  | (w, .error fatal) => ⟨.error fatal, "", fatal.announcement ++ "\n", w⟩
  | (w, .ok book) =>
    let delivery := carryOut env w style o
    let log := book.shown (records book delivery)
    { ending := delivery.ending
      output := delivery.output
      messages := consoleText book log
      workspace := delivery.workspace.put book.path.segments
        (.file (book.earlier ++ (logText env.clock log).toUTF8.toList)) }

end TypingAudit.Command
