import TypingAudit.Rule.Basic

/-!
Assertions that a value is not `None`.
-/

namespace TypingAudit.Rule

open Ast Typing

def isNone : Expr → Bool
  | .constant _ .none => true
  | _ => false

def hasNotNoneLink : Expr → List CmpOp → List Expr → Bool
  | left, op :: ops, right :: rights =>
    (op == .isNot && (isNone left || isNone right)) || hasNotNoneLink right ops rights
  | _, _, _ => false

mutual

/-- Whether a test, or a part of it joined by `and`, says that something is not `None`. -/
def rulesOutNone : Expr → Bool
  | .boolOp _ .and values => assertsNotNoneAny values
  | .compare _ left ops comparators => hasNotNoneLink left ops comparators
  | _ => false

def assertsNotNoneAny : List Expr → Bool
  | [] => false
  | e :: es => rulesOutNone e || assertsNotNoneAny es

end

def judgeNonNull (stack : CallStack) (c : Context) (_ : TypeFacts) : Verdict :=
  match c.node with
  | .stmt (.assert _ test _) =>
    if rulesOutNone test then
      .ofPrinting do
        let text ← test.sourceText stack
        return .matched ("Non-null assertion: assert " ++ text)
          "Check for None explicitly and raise; assert statements are stripped under -O"
    else .silent
  | _ => .silent

def nonNullAssertion (stack : CallStack) : Check where
  code := Audit.Code.nonNullAssertion
  severity := Audit.Severity.warning
  applies
    | .stmt (.assert ..) => true
    | _ => false
  judge := judgeNonNull stack

end TypingAudit.Rule
