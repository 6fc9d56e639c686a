import TypingAudit.Audit.UnitError
import TypingAudit.Storage.Home
import TypingAudit.Summary.Counts

/-!
What ends a run early.
-/

namespace TypingAudit.Command

open Audit Storage Summary

/-- A use of an option that was given nothing. -/
inductive Blank where
  | pattern | code | jobs | logDirectory | logLevel
deriving DecidableEq, Repr

namespace Blank

def message : Blank → String
  | .pattern => "expected str, bytes or os.PathLike object, not list"
  | .code => "unhashable type: 'list'"
  | .jobs => "'<=' not supported between instances of 'list' and 'int'"
  | .logDirectory => "expected str, bytes or os.PathLike object, not list"
  | .logLevel => "'list' object has no attribute 'upper'"

end Blank

inductive Fatal where
  | unknownHome
  | blank (use : Blank)
  | storage (fault : Fault)
  | report (path : Path) (fault : Fault)
  | unit (error : UnitError)
  | escape (error : Escape)
  | severity (error : UnknownSeverity)

namespace Fatal

def message : Fatal → String
  | .unknownHome => Storage.unknownHome
  | .blank use => use.message
  | .storage fault => fault.message
  | .report path fault => "Unable to write report " ++ path.text ++ ": " ++ fault.message
  | .unit error => error.message
  | .escape error => error.message
  | .severity error => error.message

def announcement (f : Fatal) : String := "Error running type safety analysis: " ++ f.message

end Fatal

end TypingAudit.Command
