import TypingAudit.Audit.Finding
import TypingAudit.Text.Quoted

/-!
Findings counted by severity. There are three severities; any other word is refused.
-/

namespace TypingAudit.Summary

open Audit

structure UnknownSeverity where
  severity : String
deriving DecidableEq, Repr

namespace UnknownSeverity

def message (e : UnknownSeverity) : String := "Unknown severity: " ++ Text.quotedString e.severity

end UnknownSeverity

structure Tally where
  errors : Int
  warnings : Int
  info : Int
deriving DecidableEq, Repr

namespace Tally

def zero : Tally := ⟨0, 0, 0⟩

def total (c : Tally) : Int := c.errors + c.warnings + c.info

def add (c : Tally) (severity : String) : Except UnknownSeverity Tally :=
  if severity = Severity.error then .ok { c with errors := c.errors + 1 }
  else if severity = Severity.warning then .ok { c with warnings := c.warnings + 1 }
  else if severity = Severity.info then .ok { c with info := c.info + 1 }
  else .error ⟨severity⟩

end Tally

def tally (findings : List Finding) : Except UnknownSeverity Tally :=
  findings.foldlM (fun counts f => counts.add f.severity) .zero

end TypingAudit.Summary
