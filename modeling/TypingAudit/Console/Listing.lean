import TypingAudit.Console.Style

/-!
Findings listed in the log, one record each, at the level of their severity.
-/

namespace TypingAudit.Console

open Audit

def findingLevel (f : Finding) : LogLevel :=
  if f.severity = Severity.error then .error
  else if f.severity = Severity.warning then .warning
  else .info

def findingLine (s : Style) (f : Finding) : String :=
  let place := f.unitPath ++ ":" ++ toString f.line ++ ":" ++ toString f.column
  let code := s.paint (Color.ofSeverity f.severity) ("[" ++ f.code ++ "]")
  let line := s.severitySymbol f.severity ++ " " ++ place ++ " " ++ code ++ " " ++ f.message
  match f.fix with
  | none => line
  | some fix => if fix = "" then line else line ++ " -> " ++ fix

/-- The records of a listing; one says so when there is nothing to list. -/
def listing (s : Style) (findings : List Finding) : List LogRecord :=
  if findings.isEmpty then [⟨.info, s.symbol Symbol.clean ++ " No type safety issues detected."⟩]
  else findings.map fun f => ⟨findingLevel f, findingLine s f⟩

end TypingAudit.Console
