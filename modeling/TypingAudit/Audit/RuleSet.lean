import TypingAudit.Audit.Log
import TypingAudit.Audit.UnitError
import TypingAudit.Rule.Catalogue

/-!
One pass over a tree in which every rule looks at every node. A rule that fails at a node is logged and
passed over; a value from which no finding can be read ends the pass.
-/

namespace TypingAudit.Audit

open Ast Typing Rule

structure RuleSet where
  checks : List Check

inductive Subject where
  | tree (tree : NodeTree)
  | notATree (what : String)

inductive Contribution where
  | nothing
  | finding (found : Finding)
  | failure (record : LogRecord)
  | unreadable (fault : ReadFault)

def findingOf (d : Check) (unitPath : String) (c : Context) (found : Remark) : Finding :=
  let pos := (found.anchor.getD c.node).pos
  ⟨unitPath, pos.line, pos.column, d.severity, d.code, found.message, found.fix⟩

/-- The finding that is read from a value in the place of a remark: its place first, then its message and its fix. -/
def readFinding (d : Check) (unitPath : String) (c : Context) (value : Foreign) : Except ReadFault Finding := do
  let place ← value.place
  let message ← value.message
  let fix ← value.fix
  let pos := place.getD c.node.pos
  return ⟨unitPath, pos.line, pos.column, d.severity, d.code, message, fix⟩

def Contribution.of (d : Check) (unitPath : String) (facts : TypeFacts) (c : Context) :
    Contribution :=
  match d.judge c facts with
  | .silent => .nothing
  | .report found => .finding (findingOf d unitPath c found)
  | .failed reason => .failure ⟨.debug,
      d.code ++ " could not classify " ++ c.node.kind ++ " in " ++ unitPath ++ ": " ++ reason⟩
  | .foreign value =>
    match readFinding d unitPath c value with
    | .ok found => .finding found
    | .error fault => .unreadable fault

namespace RuleSet

def codes (s : RuleSet) : List String := s.checks.map Check.code

def without (s : RuleSet) (disabled : List String) : RuleSet :=
  ⟨s.checks.filter fun d => !disabled.contains d.code⟩

def contributions (s : RuleSet) (unitPath : String) (facts : TypeFacts) (contexts : List Context) :
    List Contribution :=
  contexts.flatMap fun c =>
    (s.checks.filter fun d => d.applies c.node).map fun d =>
      Contribution.of d unitPath facts c

/-- Collects findings and log records up to the first value that cannot be read. -/
def collect (unitPath : String) : List Contribution → Logged (Except AuditFault (List Finding))
  | [] => pure (.ok [])
  | .nothing :: rest => collect unitPath rest
  | .finding found :: rest => do
    let later ← collect unitPath rest
    return later.map (found :: ·)
  | .failure record :: rest => do
    Logged.record record.level record.message
    collect unitPath rest
  | .unreadable fault :: _ => pure (.error (.of unitPath fault))

def audit (s : RuleSet) (unitPath : String) (subject : Subject) (facts : TypeFacts) :
    Logged (Except AuditFault UnitResult) :=
  match subject with
  | .notATree what => pure (.error (.unit ⟨unitPath, .notATree what⟩))
  | .tree tree => do
    let found ← collect unitPath (s.contributions unitPath facts tree.contexts)
    return found.map (UnitResult.mk unitPath)

def standardOn (stack : CallStack) (disabled : List String) : RuleSet := (RuleSet.mk (catalogue stack)).without disabled

/-- The rules of a run, in which no message is too deep for the stack. -/
def standard (disabled : List String) : RuleSet := standardOn .unbounded disabled

end RuleSet

end TypingAudit.Audit
