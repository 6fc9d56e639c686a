import TypingAudit.Ast.Context
import TypingAudit.Ast.Printer

/-!
The room that writing an expression takes. The expression is gone through from the top, and each node takes more of
the stack than what it hangs under. An expression that goes deeper than the stack has room has no text.
-/

namespace TypingAudit.Ast

/-- The room of a stack, if it has a bound, and how much of it is taken when a node is written. -/
structure CallStack where
  room : Option Nat
  depthAt : Context → Nat

namespace CallStack

def unbounded : CallStack := ⟨none, fun _ => 0⟩

def holdsAt (stack : CallStack) (c : Context) : Bool :=
  match stack.room with
  | none => true
  | some room => stack.depthAt c ≤ room

def holds (stack : CallStack) (e : Expr) : Bool :=
  stack.room.isNone || (NodeTree.contexts (e.tree .other)).all stack.holdsAt

end CallStack

def Expr.sourceText (stack : CallStack) (e : Expr) : Except PrintError String :=
  if stack.holds e then e.print else .error .tooDeep

end TypingAudit.Ast
