import TypingAudit.Ast.Shape

/-!
Tests that speak about the contents of a container: a test can hold only if the container was asked about
by membership or length, or fail only then. Each question ends at the first expression that cannot be compared.
-/

namespace TypingAudit.Rule

open Ast

def isAlike (container e : Expr) : Except PrintError Bool := do
  e.giveAccount
  return e.same container

def isLengthOf (container : Expr) : Expr → Except PrintError Bool
  | .call _ (.name _ "len" _) (first :: _) _ => isAlike container first
  | _ => return false

def hasMembership (op : CmpOp) (container : Expr) (ops : List CmpOp) (comparators : List Expr) :
    Except PrintError Bool :=
  (ops.zip comparators).anyM fun link =>
    if link.1 == op then isAlike container link.2 else return false

mutual

/-- Whether `test` can hold only after the container was asked about by membership or length. -/
def holdsOnlyChecked (container : Expr) : Expr → Except PrintError Bool
  | .boolOp _ .and values => do
    container.giveAccount
    anyHoldsOnlyChecked container values
  | .compare _ left ops comparators => do
    container.giveAccount
    hasMembership .isIn container ops comparators <||>
      (left :: comparators).anyM (isLengthOf container)
  | test => do
    container.giveAccount
    isLengthOf container test

def anyHoldsOnlyChecked (container : Expr) : List Expr → Except PrintError Bool
  | [] => return false
  | e :: es => holdsOnlyChecked container e <||> anyHoldsOnlyChecked container es

end

mutual

/-- Whether `test` can fail only after the container was asked about by membership or length. -/
def failsOnlyChecked (container : Expr) : Expr → Except PrintError Bool
  | .boolOp _ .or values => anyFailsOnlyChecked container values
  | .unaryOp _ .not operand => holdsOnlyChecked container operand
  | .compare _ _ ops comparators => do
    container.giveAccount
    hasMembership .notIn container ops comparators
  | _ => return false

def anyFailsOnlyChecked (container : Expr) : List Expr → Except PrintError Bool
  | [] => return false
  | e :: es => failsOnlyChecked container e <||> anyFailsOnlyChecked container es

end

end TypingAudit.Rule
