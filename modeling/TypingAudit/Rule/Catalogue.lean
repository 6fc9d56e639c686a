import TypingAudit.Rule.Conversion
import TypingAudit.Rule.Implicit
import TypingAudit.Rule.NonNull
import TypingAudit.Rule.Signature
import TypingAudit.Rule.Subscript

/-!
The rules of an audit in the order in which they look at a node.
-/

namespace TypingAudit.Rule

open Ast

def catalogue (stack : CallStack) : List Check :=
  [implicitDynamicParameter, implicitDynamicField, typeAssertion stack, nonNullAssertion stack, unsafeCoercion stack,
    missingParameterType, missingReturnType, uncheckedIndexAccess stack]

end TypingAudit.Rule
