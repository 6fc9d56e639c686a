import TypingAudit.Audit.RuleSet
import TypingAudit.Source.Grammar

/-!
The audit of one source file, from its bytes to its findings.
-/

namespace TypingAudit.Audit

open Ast Typing

abbrev Outcome := Except UnitError UnitResult

/-- A null byte is refused before anything else is looked at. -/
def parseSource (bytes : List UInt8) : Except Cause Module :=
  if bytes.contains 0 then .error .nullByte
  else
    match Source.parseBytes bytes with
    | some m => .ok m
    | none => .error .invalidSource

/-- The audit of a file of which reading has given `content`. A return annotation at the top level that
has no text is a fault of the whole audit and not of this file alone. -/
def auditUnit (rules : RuleSet) (unitPath : String)
    (content : Except Storage.Fault (List UInt8)) : Logged (Except Escape Outcome) := do
  let parsed : Except Cause Module :=
    match content with
    | .ok bytes => parseSource bytes
    | .error fault => .error (.storage fault)
  match parsed with
  | .error cause =>
    let failure : UnitError := ⟨unitPath, cause⟩
    Logged.debug failure.message
    return .ok (.error failure)
  | .ok m =>
    match ModuleTypes.ofModule m with
    | .error e => return .error (.print e)
    | .ok types =>
      let outcome ← rules.audit unitPath (.tree m.tree) types.facts
      match outcome with
      | .error (.escaped fault) => return .error (.read fault)
      | .error (.unit failure) =>
        Logged.debug failure.message
        return .ok (.error failure)
      | .ok result => return .ok (.ok result)

end TypingAudit.Audit
