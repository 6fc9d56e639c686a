import TypingAudit.Ast.Rose
import TypingAudit.Ast.Stmt

/-!
The nodes of a syntax tree under one type, with their kinds and places, and the tree of a module as a rose
tree in which each node knows the part it plays under its parent.
-/

namespace TypingAudit.Ast

open Source (Position)

inductive Node where
  | module (module : Module)
  | stmt (stmt : Stmt)
  | expr (expr : Expr)
  | params (params : Params)
  | param (param : Param)
  | keyword (keyword : Keyword)
  | comprehension (comprehension : Comprehension)
  | handler (handler : Handler)
  | withItem (item : WithItem)
  | matchCase (case : MatchCase)
  | pattern (pattern : Pattern)
  | importAlias (item : Alias)
  | usage (usage : Usage)
  | boolOp (op : BoolOp)
  | binOp (op : BinOp)
  | unaryOp (op : UnaryOp)
  | cmpOp (op : CmpOp)

/-- The part a node plays under its parent, where a rule asks for it. -/
inductive Role where
  | typeHint
  | returns
  /-- The branches of a conditional expression. -/
  | thenBranch
  | elseBranch
  /-- An operand of `and` or `or`, counted from zero. -/
  | operand (index : Nat)
  | posOnly (index : Nat)
  | regular (index : Nat)
  | varArg
  | kwOnly (index : Nat)
  | kwArg
  | other
deriving DecidableEq, Repr

structure Occurrence where
  role : Role
  node : Node

abbrev NodeTree := Rose Occurrence

namespace Expr

def kind : Expr → String
  | .boolOp .. => "BoolOp" | .named .. => "NamedExpr" | .binOp .. => "BinOp"
  | .unaryOp .. => "UnaryOp" | .lambda .. => "Lambda" | .ifExp .. => "IfExp" | .dict .. => "Dict"
  | .set .. => "Set" | .listComp .. => "ListComp" | .setComp .. => "SetComp"
  | .dictComp .. => "DictComp" | .generator .. => "GeneratorExp" | .await .. => "Await"
  | .yield .. => "Yield" | .yieldFrom .. => "YieldFrom" | .compare .. => "Compare"
  | .call .. => "Call" | .formatted .. => "FormattedValue" | .joined .. => "JoinedStr"
  | .constant .. => "Constant" | .attribute .. => "Attribute" | .subscript .. => "Subscript"
  | .starred .. => "Starred" | .name .. => "Name" | .list .. => "List" | .tuple .. => "Tuple"
  | .slice .. => "Slice"

end Expr

namespace Stmt

def kind : Stmt → String
  | .functionDef f => if f.isAsync then "AsyncFunctionDef" else "FunctionDef"
  | .classDef .. => "ClassDef" | .ret .. => "Return" | .delete .. => "Delete"
  | .assign .. => "Assign" | .augAssign .. => "AugAssign" | .annAssign .. => "AnnAssign"
  | .forLoop _ isAsync .. => if isAsync then "AsyncFor" else "For"
  | .whileLoop .. => "While" | .branch .. => "If"
  | .withBlock _ isAsync .. => if isAsync then "AsyncWith" else "With"
  | .choice .. => "Match" | .raise .. => "Raise"
  | .tryBlock _ isStar .. => if isStar then "TryStar" else "Try"
  | .assert .. => "Assert" | .importNames .. => "Import" | .importFrom .. => "ImportFrom"
  | .globalNames .. => "Global" | .nonlocalNames .. => "Nonlocal" | .expr .. => "Expr"
  | .pass .. => "Pass" | .breakLoop .. => "Break" | .continueLoop .. => "Continue"

end Stmt

namespace Pattern

def kind : Pattern → String
  | .value .. => "MatchValue" | .singleton .. => "MatchSingleton" | .sequence .. => "MatchSequence"
  | .mapping .. => "MatchMapping" | .classOf .. => "MatchClass" | .star .. => "MatchStar"
  | .capture .. => "MatchAs" | .anyOf .. => "MatchOr"

end Pattern

namespace Usage

def kind : Usage → String
  | .load => "Load" | .store => "Store" | .del => "Del"

end Usage

namespace BoolOp

def kind : BoolOp → String
  | .and => "And" | .or => "Or"

end BoolOp

namespace BinOp

def kind : BinOp → String
  | .add => "Add" | .sub => "Sub" | .mult => "Mult" | .matMult => "MatMult" | .div => "Div"
  | .mod => "Mod" | .pow => "Pow" | .lShift => "LShift" | .rShift => "RShift" | .bitOr => "BitOr"
  | .bitXor => "BitXor" | .bitAnd => "BitAnd" | .floorDiv => "FloorDiv"

end BinOp

namespace UnaryOp

def kind : UnaryOp → String
  | .invert => "Invert" | .not => "Not" | .plus => "UAdd" | .minus => "USub"

end UnaryOp

namespace CmpOp

def kind : CmpOp → String
  | .eq => "Eq" | .notEq => "NotEq" | .lt => "Lt" | .ltE => "LtE" | .gt => "Gt" | .gtE => "GtE"
  | .is => "Is" | .isNot => "IsNot" | .isIn => "In" | .notIn => "NotIn"

end CmpOp

namespace Node

def kind : Node → String
  | .module _ => "Module"
  | .stmt s => s.kind
  | .expr e => e.kind
  | .params _ => "arguments"
  | .param _ => "arg"
  | .keyword _ => "keyword"
  | .comprehension _ => "comprehension"
  | .handler _ => "ExceptHandler"
  | .withItem _ => "withitem"
  | .matchCase _ => "match_case"
  | .pattern p => p.kind
  | .importAlias _ => "alias"
  | .usage u => u.kind
  | .boolOp op => op.kind
  | .binOp op => op.kind
  | .unaryOp op => op.kind
  | .cmpOp op => op.kind

/-- The place of a node; nodes without one count as standing at the start of the text. -/
def pos : Node → Position
  | .stmt s => s.pos
  | .expr e => e.pos
  | .param p => p.pos
  | .keyword k => k.pos
  | .handler h => h.pos
  | .pattern p => p.pos
  | .importAlias a => a.pos
  | _ => .start

end Node

def Occurrence.tree (role : Role) (node : Node) (children : List NodeTree) : NodeTree :=
  .node ⟨role, node⟩ children

def Node.leafTree (node : Node) : NodeTree := .leaf ⟨.other, node⟩

open Occurrence (tree)

mutual

def Expr.tree (role : Role) (e : Expr) : NodeTree :=
  Occurrence.tree role (.expr e) <|
    match e with
    | .boolOp _ op values => Node.leafTree (.boolOp op) :: operandTrees 0 values
    | .named _ target value => [target.tree .other, value.tree .other]
    | .binOp _ left op right =>
      [left.tree .other, Node.leafTree (.binOp op), right.tree .other]
    | .unaryOp _ op operand => [Node.leafTree (.unaryOp op), operand.tree .other]
    | .lambda _ params body => [params.tree, body.tree .other]
    | .ifExp _ test body orelse =>
      [test.tree .other, body.tree .thenBranch, orelse.tree .elseBranch]
    | .dict _ keys values => optionTrees keys ++ exprTrees values
    | .set _ elts => exprTrees elts
    | .listComp _ elt generators => elt.tree .other :: generatorTrees generators
    | .setComp _ elt generators => elt.tree .other :: generatorTrees generators
    | .dictComp _ key value generators =>
      key.tree .other :: value.tree .other :: generatorTrees generators
    | .generator _ elt generators => elt.tree .other :: generatorTrees generators
    | .await _ value => [value.tree .other]
    | .yield _ value => optionTree .other value
    | .yieldFrom _ value => [value.tree .other]
    | .compare _ left ops comparators =>
      left.tree .other :: (ops.map fun op => Node.leafTree (.cmpOp op)) ++ exprTrees comparators
    | .call _ func args keywords =>
      func.tree .other :: (exprTrees args ++ keywordTrees keywords)
    | .formatted _ value _ spec => value.tree .other :: optionTree .other spec
    | .joined _ values => exprTrees values
    | .constant _ _ => []
    | .attribute _ value _ usage => [value.tree .other, Node.leafTree (.usage usage)]
    | .subscript _ value index usage =>
      [value.tree .other, index.tree .other, Node.leafTree (.usage usage)]
    | .starred _ value usage => [value.tree .other, Node.leafTree (.usage usage)]
    | .name _ _ usage => [Node.leafTree (.usage usage)]
    | .list _ elts usage => exprTrees elts ++ [Node.leafTree (.usage usage)]
    | .tuple _ elts usage => exprTrees elts ++ [Node.leafTree (.usage usage)]
    | .slice _ lower upper step =>
      optionTree .other lower ++ optionTree .other upper ++ optionTree .other step

def operandTrees (index : Nat) : List Expr → List NodeTree
  | [] => []
  | e :: es => e.tree (.operand index) :: operandTrees (index + 1) es

def exprTrees : List Expr → List NodeTree
  | [] => []
  | e :: es => e.tree .other :: exprTrees es

def optionTree (role : Role) : Option Expr → List NodeTree
  | none => []
  | some e => [e.tree role]

def optionTrees : List (Option Expr) → List NodeTree
  | [] => []
  | e :: es => optionTree .other e ++ optionTrees es

def Param.tree (role : Role) (p : Param) : NodeTree :=
  Occurrence.tree role (.param p) <|
    match p with
    | ⟨_, _, typeHint⟩ => optionTree .typeHint typeHint

def paramTrees (role : Nat → Role) (index : Nat) : List Param → List NodeTree
  | [] => []
  | p :: ps => p.tree (role index) :: paramTrees role (index + 1) ps

def paramTree? (role : Role) : Option Param → List NodeTree
  | none => []
  | some p => [p.tree role]

def Params.tree (ps : Params) : NodeTree :=
  Occurrence.tree .other (.params ps) <|
    match ps with
    | ⟨posOnly, regular, varArg, kwOnly, kwDefaults, kwArg, defaults⟩ =>
      paramTrees .posOnly 0 posOnly ++ paramTrees .regular 0 regular ++
        paramTree? .varArg varArg ++ paramTrees .kwOnly 0 kwOnly ++ optionTrees kwDefaults ++
        paramTree? .kwArg kwArg ++ exprTrees defaults

def Keyword.tree (k : Keyword) : NodeTree :=
  Occurrence.tree .other (.keyword k) <|
    match k with
    | ⟨_, _, value⟩ => [value.tree .other]

def keywordTrees : List Keyword → List NodeTree
  | [] => []
  | k :: ks => k.tree :: keywordTrees ks

def Comprehension.tree (c : Comprehension) : NodeTree :=
  Occurrence.tree .other (.comprehension c) <|
    match c with
    | ⟨target, iter, ifs, _⟩ => target.tree .other :: iter.tree .other :: exprTrees ifs

def generatorTrees : List Comprehension → List NodeTree
  | [] => []
  | g :: gs => g.tree :: generatorTrees gs

end

mutual

def Pattern.tree (p : Pattern) : NodeTree :=
  Occurrence.tree .other (.pattern p) <|
    match p with
    | .value _ value => [value.tree .other]
    | .singleton _ _ => []
    | .sequence _ patterns => patternTrees patterns
    | .mapping _ keys patterns _ => exprTrees keys ++ patternTrees patterns
    | .classOf _ cls patterns _ attrPatterns =>
      cls.tree .other :: (patternTrees patterns ++ patternTrees attrPatterns)
    | .star _ _ => []
    | .capture _ inner _ => patternTree? inner
    | .anyOf _ patterns => patternTrees patterns

def patternTrees : List Pattern → List NodeTree
  | [] => []
  | p :: ps => p.tree :: patternTrees ps

def patternTree? : Option Pattern → List NodeTree
  | none => []
  | some p => [p.tree]

end

def Alias.tree (a : Alias) : NodeTree := Node.leafTree (.importAlias a)

def WithItem.tree (item : WithItem) : NodeTree :=
  Occurrence.tree .other (.withItem item)
    (item.context.tree .other :: optionTree .other item.target)

mutual

def Stmt.tree (s : Stmt) : NodeTree :=
  Occurrence.tree .other (.stmt s) <|
    match s with
    | .functionDef f => f.trees
    | .classDef _ _ bases keywords body decorators =>
      exprTrees bases ++ keywordTrees keywords ++ stmtTrees body ++ exprTrees decorators
    | .ret _ value => optionTree .other value
    | .delete _ targets => exprTrees targets
    | .assign _ targets value => exprTrees targets ++ [value.tree .other]
    | .augAssign _ target op value =>
      [target.tree .other, Node.leafTree (.binOp op), value.tree .other]
    | .annAssign _ target typeHint value =>
      target.tree .other :: typeHint.tree .typeHint :: optionTree .other value
    | .forLoop _ _ target iter body orelse =>
      target.tree .other :: iter.tree .other :: (stmtTrees body ++ stmtTrees orelse)
    | .whileLoop _ test body orelse => test.tree .other :: (stmtTrees body ++ stmtTrees orelse)
    | .branch _ test body orelse => test.tree .other :: (stmtTrees body ++ stmtTrees orelse)
    | .withBlock _ _ items body => items.map WithItem.tree ++ stmtTrees body
    | .choice _ subject cases => subject.tree .other :: caseTrees cases
    | .raise _ exc cause => optionTree .other exc ++ optionTree .other cause
    | .tryBlock _ _ body handlers orelse finalBody =>
      stmtTrees body ++ handlerTrees handlers ++ stmtTrees orelse ++ stmtTrees finalBody
    | .assert _ test msg => test.tree .other :: optionTree .other msg
    | .importNames _ names => names.map Alias.tree
    | .importFrom _ _ names _ => names.map Alias.tree
    | .globalNames _ _ => []
    | .nonlocalNames _ _ => []
    | .expr _ value => [value.tree .other]
    | .pass _ => []
    | .breakLoop _ => []
    | .continueLoop _ => []

def FunctionDef.trees : FunctionDef → List NodeTree
  | ⟨_, _, _, params, body, decorators, returns⟩ =>
    params.tree :: (stmtTrees body ++ exprTrees decorators ++ optionTree .returns returns)

def stmtTrees : List Stmt → List NodeTree
  | [] => []
  | s :: ss => s.tree :: stmtTrees ss

def Handler.tree (h : Handler) : NodeTree :=
  Occurrence.tree .other (.handler h) <|
    match h with
    | ⟨_, type, _, body⟩ => optionTree .other type ++ stmtTrees body

def handlerTrees : List Handler → List NodeTree
  | [] => []
  | h :: hs => h.tree :: handlerTrees hs

def MatchCase.tree (c : MatchCase) : NodeTree :=
  Occurrence.tree .other (.matchCase c) <|
    match c with
    | ⟨pattern, guard, body⟩ => pattern.tree :: (optionTree .other guard ++ stmtTrees body)

def caseTrees : List MatchCase → List NodeTree
  | [] => []
  | c :: cs => c.tree :: caseTrees cs

end

def Module.tree (m : Module) : NodeTree :=
  Occurrence.tree .other (.module m) (stmtTrees m.body)

end TypingAudit.Ast
