import TypingAudit.Audit.Batch
import TypingAudit.Command.Environment
import TypingAudit.Command.Fatal
import TypingAudit.Command.Options
import TypingAudit.Report.Destination
import TypingAudit.Selection.Sources
import TypingAudit.Summary.Run

/-!
The first half of a run: from the options to a summary of all findings. It reads files and changes none.
-/

namespace TypingAudit.Command

open Audit Selection Storage Summary

structure Inspected where
  jsonPath : Path
  markdownPath : Path
  run : Run

abbrev Stage (α : Type) := ExceptT Fatal Logged α

namespace Stage

variable {α β : Type}

def ofLogged (x : Logged α) : Stage α := ExceptT.mk (return .ok (← x))

def ofOption (fatal : Fatal) (x : Logged (Option α)) : Stage α :=
  ExceptT.mk (return match ← x with
    | some a => .ok a
    | none => .error fatal)

def ofExcept {ε : Type} (fatal : ε → Fatal) (x : Logged (Except ε α)) : Stage α :=
  ExceptT.mk (return (← x).mapError fatal)

end Stage

def defaultJsonReport : String := "type-safety-report.json"
def defaultMarkdownReport : String := "docs/TYPE_SAFETY_REPORT.md"

def reportPath (env : Environment) (given : Option (Given String)) (setting default : String) :
    Stage Path :=
  .ofOption .unknownHome
    (Report.destination env.homes env.assignments (given.bind Given.value?) setting default)

/-- The paths to audit; a single one from the environment takes the place of all others. -/
def targetPaths (env : Environment) (o : Options) : Logged (List String) :=
  match Report.nonEmpty (env.setting? Variable.targetFile) with
  | none => pure o.paths
  | some path => do
    Logged.info ("Restricting analysis to " ++ path ++ " (from " ++ Variable.targetFile ++ ")")
    return [path]

/-- The units that stay. A pattern that is blank is fatal at the first unit that reaches it. -/
def keepGiven (given : List (Given String)) (units : List SourceFile) : Stage (List SourceFile) :=
  let patterns := (given.map Given.value?).takeWhile Option.isSome |>.filterMap id
  let reaches := fun u : SourceFile => !leavesOut patterns u.unitPath
  if patterns.length = given.length ∨ !units.any reaches then .ofLogged (keepUnits patterns units)
  else
    ExceptT.mk ⟨.error (.blank .pattern),
      (units.takeWhile (!reaches ·)).filterMap (exclusionRecord? patterns)⟩

def disabledCodes (o : Options) : Stage (List String) :=
  match o.disable.mapM Given.value? with
  | some codes => pure codes
  | none => throw (.blank .code)

def jobCount (o : Options) : Stage Int :=
  match o.jobs with
  | .value n => pure n
  | .nothing => throw (.blank .jobs)

def selectUnits (env : Environment) (w : Workspace) (o : Options) : Stage (List SourceFile) := do
  let given ← Stage.ofLogged (targetPaths env o)
  let targets ← Stage.ofOption .unknownHome (existingTargets w env.homes given)
  if targets.isEmpty then
    Stage.ofLogged (Logged.warning "No valid targets to analyse.")
  let found ← Stage.ofLogged (sourceFiles w (some (Path.ofLocation w.directory)) targets)
  keepGiven o.exclude found

def auditResults (env : Environment) (w : Workspace) (o : Options) (units : List SourceFile) :
    Stage (List UnitResult) := do
  let rules := RuleSet.standard (← disabledCodes o)
  let outcomes ← Stage.ofExcept .escape (auditUnits w rules env.processors (← jobCount o) units)
  Stage.ofExcept .unit (settle o.skipErrors outcomes)

def inspect (env : Environment) (w : Workspace) (o : Options) : Stage Inspected := do
  let jsonPath ← reportPath env o.jsonReport Variable.jsonReport defaultJsonReport
  let markdownPath ← reportPath env o.markdownReport Variable.markdownReport defaultMarkdownReport
  let units ← selectUnits env w o
  Stage.ofLogged (Logged.info ("Analysing " ++ toString units.length ++ " source unit(s)"))
  let results ← auditResults env w o units
  let run ← Stage.ofExcept .severity (pure (summarize env.clock.inReport results))
  return ⟨jsonPath, markdownPath, run⟩

end TypingAudit.Command
