/-!
Findings, and what the audit of one source file yields.
-/

namespace TypingAudit.Audit

namespace Severity

def error : String := "error"
def warning : String := "warning"
def info : String := "info"

end Severity

namespace Code

def implicitDynamic : String := "IMPLICIT-DYNAMIC"
def typeAssertion : String := "TYPE-ASSERTION"
def nonNullAssertion : String := "NON-NULL-ASSERTION"
def unsafeCoercion : String := "UNSAFE-COERCION"
def missingParamType : String := "MISSING-PARAM-TYPE"
def missingReturnType : String := "MISSING-RETURN-TYPE"
def uncheckedIndexAccess : String := "UNCHECKED-INDEX-ACCESS"

/-- Every code, in the order in which they are listed to users. -/
def all : List String :=
  [implicitDynamic, typeAssertion, nonNullAssertion, unsafeCoercion, missingParamType,
    missingReturnType, uncheckedIndexAccess]

end Code

structure Finding where
  unitPath : String
  line : Int
  column : Int
  severity : String
  code : String
  message : String
  fix : Option String
deriving DecidableEq, Repr

structure UnitResult where
  unitPath : String
  findings : List Finding
deriving DecidableEq, Repr

namespace UnitResult

def hasFindings (r : UnitResult) : Bool := !r.findings.isEmpty

end UnitResult

end TypingAudit.Audit
