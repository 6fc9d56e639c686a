import TypingAudit.Ast.Expr

/-!
Statements, the patterns of `match` statements, and whole modules.
-/

namespace TypingAudit.Ast

open Source (Position)

inductive Pattern where
  | value (pos : Position) (value : Expr)
  | singleton (pos : Position) (value : Constant)
  | sequence (pos : Position) (patterns : List Pattern)
  | mapping (pos : Position) (keys : List Expr) (patterns : List Pattern) (rest : Option String)
  | classOf (pos : Position) (cls : Expr) (patterns : List Pattern) (attrs : List String)
      (attrPatterns : List Pattern)
  | star (pos : Position) (name : Option String)
  /-- A capture without an inner pattern; without a name it matches anything. -/
  | capture (pos : Position) (inner : Option Pattern) (name : Option String)
  | anyOf (pos : Position) (patterns : List Pattern)

/-- One imported name, with the name it is bound to when that is given. -/
structure Alias where
  pos : Position
  name : String
  asName : Option String

structure WithItem where
  context : Expr
  target : Option Expr

mutual

inductive Stmt where
  | functionDef (function : FunctionDef)
  | classDef (pos : Position) (name : String) (bases : List Expr) (keywords : List Keyword)
      (body : List Stmt) (decorators : List Expr)
  | ret (pos : Position) (value : Option Expr)
  | delete (pos : Position) (targets : List Expr)
  | assign (pos : Position) (targets : List Expr) (value : Expr)
  | augAssign (pos : Position) (target : Expr) (op : BinOp) (value : Expr)
  | annAssign (pos : Position) (target typeHint : Expr) (value : Option Expr)
  | forLoop (pos : Position) (isAsync : Bool) (target iter : Expr) (body orelse : List Stmt)
  | whileLoop (pos : Position) (test : Expr) (body orelse : List Stmt)
  | branch (pos : Position) (test : Expr) (body orelse : List Stmt)
  | withBlock (pos : Position) (isAsync : Bool) (items : List WithItem) (body : List Stmt)
  | choice (pos : Position) (subject : Expr) (cases : List MatchCase)
  | raise (pos : Position) (exc cause : Option Expr)
  | tryBlock (pos : Position) (isStar : Bool) (body : List Stmt) (handlers : List Handler)
      (orelse finalBody : List Stmt)
  | assert (pos : Position) (test : Expr) (msg : Option Expr)
  | importNames (pos : Position) (names : List Alias)
  /-- `level` counts the leading dots; a purely relative import has no module part. -/
  | importFrom (pos : Position) (module : Option String) (names : List Alias) (level : Nat)
  | globalNames (pos : Position) (names : List String)
  | nonlocalNames (pos : Position) (names : List String)
  | expr (pos : Position) (value : Expr)
  | pass (pos : Position)
  | breakLoop (pos : Position)
  | continueLoop (pos : Position)

structure FunctionDef where
  pos : Position
  isAsync : Bool
  name : String
  params : Params
  body : List Stmt
  decorators : List Expr
  returns : Option Expr

structure Handler where
  pos : Position
  type : Option Expr
  name : Option String
  body : List Stmt

structure MatchCase where
  pattern : Pattern
  guard : Option Expr
  body : List Stmt

end

structure Module where
  body : List Stmt

namespace Pattern

def pos : Pattern → Position
  | .value p .. | .singleton p .. | .sequence p .. | .mapping p .. | .classOf p .. | .star p ..
  | .capture p .. | .anyOf p .. => p

end Pattern

namespace Stmt

def pos : Stmt → Position
  | .functionDef f => f.pos
  | .classDef p .. | .ret p .. | .delete p .. | .assign p .. | .augAssign p .. | .annAssign p ..
  | .forLoop p .. | .whileLoop p .. | .branch p .. | .withBlock p .. | .choice p .. | .raise p ..
  | .tryBlock p .. | .assert p .. | .importNames p .. | .importFrom p .. | .globalNames p ..
  | .nonlocalNames p .. | .expr p .. | .pass p | .breakLoop p | .continueLoop p => p

end Stmt

end TypingAudit.Ast
