import TypingAudit.Decimal.Binary
import TypingAudit.Text.CodePoints

/-!
Literal values. Numbers are never negative: a sign in front of a literal is an operator.
-/

namespace TypingAudit.Ast

open Text (CodePoints)
open Decimal (Binary)

inductive Constant where
  | none
  | bool (value : Bool)
  | ellipsis
  /-- `marked` records a leading `u`, which printing keeps and comparison observes. -/
  | str (text : CodePoints) (marked : Bool)
  | bytes (data : List UInt8)
  | int (value : Nat)
  | float (value : Binary)
  | imaginary (value : Binary)
deriving DecidableEq, Repr

namespace Constant

/-- The type a checker gives the literal; `None` has none of interest. -/
def typeName? : Constant → Option String
  | .none => Option.none
  | .bool _ => some "bool"
  | .ellipsis => some "ellipsis"
  | .str _ _ => some "str"
  | .bytes _ => some "bytes"
  | .int _ => some "int"
  | .float _ => some "float"
  | .imaginary _ => some "complex"

end Constant

end TypingAudit.Ast
