import TypingAudit.Ast.CallStack
import TypingAudit.Audit.Finding
import TypingAudit.Typing.Facts

/-!
Rules: what a rule looks at, and what it may say about a node. A rule that cannot judge a node fails there
and says nothing. A rule may also return a value of its own making in the place of a remark; such a value counts for
what can be read from it.
-/

namespace TypingAudit.Rule

open Ast Typing
open Source (Position)

/-- What a rule reports about a node. It is placed at the node unless an anchor is given. -/
structure Remark where
  message : String
  fix : Option String
  anchor : Option Node

inductive FaultKind where
  | attribute
  | type
  | recursion
  | other (name : String)
deriving DecidableEq, Repr

structure ReadFault where
  kind : FaultKind
  text : String
deriving DecidableEq, Repr

/-- A value that stands in the place of a remark: what comes of reading from it the place of its anchor, if it has
one, its message and its fix. -/
structure Foreign where
  place : Except ReadFault (Option Position)
  message : Except ReadFault String
  fix : Except ReadFault (Option String)

inductive Verdict where
  | silent
  | report (found : Remark)
  | failed (reason : String)
  | foreign (value : Foreign)

namespace Verdict

def ofPrinting : Except PrintError Verdict → Verdict
  | .ok verdict => verdict
  | .error e => .failed e.message

def matched (message fix : String) : Verdict := .report ⟨message, some fix, none⟩

end Verdict

structure Check where
  code : String
  severity : String
  applies : Node → Bool
  judge : Context → TypeFacts → Verdict

end TypingAudit.Rule
