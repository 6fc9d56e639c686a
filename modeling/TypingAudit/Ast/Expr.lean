import TypingAudit.Source.Position
import TypingAudit.Ast.Constant

/-!
Expressions of the audited language. Each carries the place of its first token; parentheses leave no
trace of their own. A parameter list keeps positional defaults apart from the parameters they belong to,
as a list that pairs with the last of them.
-/

namespace TypingAudit.Ast

open Source (Position)

inductive BoolOp where
  | and
  | or
deriving DecidableEq, Repr

inductive BinOp where
  | add | sub | mult | matMult | div | mod | pow | lShift | rShift | bitOr | bitXor | bitAnd | floorDiv
deriving DecidableEq, Repr

inductive UnaryOp where
  | invert | not | plus | minus
deriving DecidableEq, Repr

inductive CmpOp where
  | eq | notEq | lt | ltE | gt | gtE | is | isNot | isIn | notIn
deriving DecidableEq, Repr

/-- Whether an expression is read, bound or deleted where it stands. -/
inductive Usage where
  | load | store | del
deriving DecidableEq, Repr

inductive Conversion where
  | str | repr | ascii
deriving DecidableEq, Repr

mutual

inductive Expr where
  | boolOp (pos : Position) (op : BoolOp) (values : List Expr)
  | named (pos : Position) (target value : Expr)
  | binOp (pos : Position) (left : Expr) (op : BinOp) (right : Expr)
  | unaryOp (pos : Position) (op : UnaryOp) (operand : Expr)
  | lambda (pos : Position) (params : Params) (body : Expr)
  | ifExp (pos : Position) (test body orelse : Expr)
  /-- An absent key marks an unpacked mapping. -/
  | dict (pos : Position) (keys : List (Option Expr)) (values : List Expr)
  | set (pos : Position) (elts : List Expr)
  | listComp (pos : Position) (elt : Expr) (generators : List Comprehension)
  | setComp (pos : Position) (elt : Expr) (generators : List Comprehension)
  | dictComp (pos : Position) (key value : Expr) (generators : List Comprehension)
  | generator (pos : Position) (elt : Expr) (generators : List Comprehension)
  | await (pos : Position) (value : Expr)
  | yield (pos : Position) (value : Option Expr)
  | yieldFrom (pos : Position) (value : Expr)
  | compare (pos : Position) (left : Expr) (ops : List CmpOp) (comparators : List Expr)
  | call (pos : Position) (func : Expr) (args : List Expr) (keywords : List Keyword)
  | formatted (pos : Position) (value : Expr) (conversion : Option Conversion) (spec : Option Expr)
  | joined (pos : Position) (values : List Expr)
  | constant (pos : Position) (value : Constant)
  | attribute (pos : Position) (value : Expr) (attr : String) (usage : Usage)
  | subscript (pos : Position) (value index : Expr) (usage : Usage)
  | starred (pos : Position) (value : Expr) (usage : Usage)
  | name (pos : Position) (id : String) (usage : Usage)
  | list (pos : Position) (elts : List Expr) (usage : Usage)
  | tuple (pos : Position) (elts : List Expr) (usage : Usage)
  | slice (pos : Position) (lower upper step : Option Expr)

structure Param where
  pos : Position
  name : String
  typeHint : Option Expr

structure Params where
  posOnly : List Param
  regular : List Param
  varArg : Option Param
  kwOnly : List Param
  kwDefaults : List (Option Expr)
  kwArg : Option Param
  defaults : List Expr

structure Keyword where
  pos : Position
  /-- Absent for an unpacked mapping. -/
  name : Option String
  value : Expr

structure Comprehension where
  target : Expr
  iter : Expr
  ifs : List Expr
  isAsync : Bool

end

namespace Expr

def pos : Expr → Position
  | .boolOp p .. | .named p .. | .binOp p .. | .unaryOp p .. | .lambda p .. | .ifExp p ..
  | .dict p .. | .set p .. | .listComp p .. | .setComp p .. | .dictComp p .. | .generator p ..
  | .await p .. | .yield p .. | .yieldFrom p .. | .compare p .. | .call p .. | .formatted p ..
  | .joined p .. | .constant p .. | .attribute p .. | .subscript p .. | .starred p .. | .name p ..
  | .list p .. | .tuple p .. | .slice p .. => p

end Expr

namespace Params

def empty : Params := ⟨[], [], none, [], [], none, []⟩

def positional (params : Params) : List Param := params.posOnly ++ params.regular

def all (params : Params) : List Param :=
  params.posOnly ++ params.regular ++ params.varArg.toList ++ params.kwOnly ++ params.kwArg.toList

end Params

end TypingAudit.Ast
