import TypingAudit.Rule.Basic
import TypingAudit.Storage.Fault

/-!
Why a source file could not be audited. The failure of one file is a value, so that the others go on.
-/

namespace TypingAudit.Audit

open Rule (ReadFault)
open Storage (Fault)

inductive Cause where
  | storage (fault : Fault)
  | nullByte
  /-- The bytes cannot be decoded, or the text is not in the language. -/
  | invalidSource
  /-- Something that is no tree was given for one. -/
  | notATree (what : String)
  /-- A rule returned something that cannot be read as a remark. -/
  | unreadable (fault : ReadFault)
deriving DecidableEq, Repr

namespace Cause

def text : Cause → String
  | .storage fault => fault.message
  | .nullByte => "source code string cannot contain null bytes"
  | .invalidSource => "<SyntaxError>"
  | .notATree what => "expected an AST node, got " ++ what
  | .unreadable fault => fault.text

end Cause

structure UnitError where
  unitPath : String
  cause : Cause
deriving DecidableEq, Repr

/-- How the audit of a tree may end without findings: in a failure of its file, or in a fault that is not kept to the
file. -/
inductive AuditFault where
  | unit (error : UnitError)
  | escaped (fault : ReadFault)
deriving DecidableEq, Repr

/-- Three kinds of faults are kept to the file. -/
def AuditFault.of (unitPath : String) (fault : ReadFault) : AuditFault :=
  match fault.kind with
  | .attribute | .type | .recursion => .unit ⟨unitPath, .unreadable fault⟩
  | .other _ => .escaped fault

inductive Escape where
  | print (error : Ast.PrintError)
  | read (fault : ReadFault)
deriving DecidableEq, Repr

def Escape.message : Escape → String
  | .print error => error.message
  | .read fault => fault.text

namespace UnitError

def message (e : UnitError) : String :=
  "Unable to analyse " ++ e.unitPath ++ ": " ++ e.cause.text

end UnitError

end TypingAudit.Audit
