import TypingAudit.Audit.Unit
import TypingAudit.Selection.SourceFile
import TypingAudit.Storage.Workspace

/-!
The audit of many source files. Outcomes stand in the order of the files; afterwards failures are either
skipped or end the run, and they are logged in both cases.
-/

namespace TypingAudit.Audit

open Ast Selection Storage

def auditEach (audit : SourceFile → Logged (Except Escape Outcome)) :
    List SourceFile → Logged (Except Escape (List Outcome))
  | [] => pure (.ok [])
  | u :: rest => do
    match ← audit u with
    | .error e => return .error e
    | .ok outcome =>
      let others ← auditEach audit rest
      return others.map (outcome :: ·)

/-- With fewer units than this, workers do not pay. -/
def fewestSharedUnits : Nat := 3

/-- How many workers share the units; no positive number of jobs means one for each processor. -/
def workers (processors : Nat) (jobs : Int) (units : Nat) : Nat :=
  min (if jobs ≤ 0 then max 1 processors else jobs.toNat) units

def auditUnits (w : Workspace) (rules : RuleSet) (processors : Nat) (jobs : Int)
    (units : List SourceFile) : Logged (Except Escape (List Outcome)) := do
  let shared := workers processors jobs units.length
  if 1 < shared ∧ fewestSharedUnits ≤ units.length then
    Logged.debug ("Analysing " ++ toString units.length ++ " unit(s) with " ++ toString shared
      ++ " worker process(es)")
  auditEach (fun u => auditUnit rules u.unitPath (w.readFile u.path)) units

def succeeded (outcomes : List Outcome) : List UnitResult :=
  outcomes.filterMap fun
    | .ok result => some result
    | .error _ => none

def failed (outcomes : List Outcome) : List UnitError :=
  outcomes.filterMap fun
    | .ok _ => none
    | .error e => some e

/-- The results of the audits that succeeded. Unless failures are skipped, the first one is returned. -/
def settle (skipErrors : Bool) (outcomes : List Outcome) : Logged (Except UnitError (List UnitResult)) :=
  match failed outcomes with
  | [] => pure (.ok (succeeded outcomes))
  | first :: others =>
    let failures := first :: others
    if skipErrors then
      ⟨.ok (succeeded outcomes),
        failures.map (fun e => ⟨.warning, "Skipping unit: " ++ e.message⟩)
          ++ [⟨.warning, toString failures.length
            ++ " unit(s) could not be analysed and were skipped."⟩]⟩
    else ⟨.error first, failures.map fun e => ⟨.error, e.message⟩⟩

end TypingAudit.Audit
