import TypingAudit.Ast.Context

/-!
Changing the places and the names of a syntax tree and nothing else. The names are those that expressions use and
those that imports bind; what functions, classes, parameters and patterns declare keeps its name.
-/

namespace TypingAudit.Ast

open Source (Position)

/-- What becomes of the places of a tree, and of the names that its expressions use. -/
structure Relabelling where
  place : Position → Position
  name : String → String

mutual

def Expr.relabel (r : Relabelling) : Expr → Expr
  | .boolOp pos op values => .boolOp (r.place pos) op (relabelAll r values)
  | .named pos target value => .named (r.place pos) (target.relabel r) (value.relabel r)
  | .binOp pos left op right => .binOp (r.place pos) (left.relabel r) op (right.relabel r)
  | .unaryOp pos op operand => .unaryOp (r.place pos) op (operand.relabel r)
  | .lambda pos params body => .lambda (r.place pos) (params.relabel r) (body.relabel r)
  | .ifExp pos test body orelse => .ifExp (r.place pos) (test.relabel r) (body.relabel r) (orelse.relabel r)
  | .dict pos keys values => .dict (r.place pos) (relabelOptions r keys) (relabelAll r values)
  | .set pos elts => .set (r.place pos) (relabelAll r elts)
  | .listComp pos elt generators => .listComp (r.place pos) (elt.relabel r) (relabelGenerators r generators)
  | .setComp pos elt generators => .setComp (r.place pos) (elt.relabel r) (relabelGenerators r generators)
  | .dictComp pos key value generators =>
    .dictComp (r.place pos) (key.relabel r) (value.relabel r) (relabelGenerators r generators)
  | .generator pos elt generators => .generator (r.place pos) (elt.relabel r) (relabelGenerators r generators)
  | .await pos value => .await (r.place pos) (value.relabel r)
  | .yield pos value => .yield (r.place pos) (relabelOption r value)
  | .yieldFrom pos value => .yieldFrom (r.place pos) (value.relabel r)
  | .compare pos left ops comparators => .compare (r.place pos) (left.relabel r) ops (relabelAll r comparators)
  | .call pos func args keywords =>
    .call (r.place pos) (func.relabel r) (relabelAll r args) (relabelKeywords r keywords)
  | .formatted pos value conversion spec =>
    .formatted (r.place pos) (value.relabel r) conversion (relabelOption r spec)
  | .joined pos values => .joined (r.place pos) (relabelAll r values)
  | .constant pos value => .constant (r.place pos) value
  | .attribute pos value attr usage => .attribute (r.place pos) (value.relabel r) attr usage
  | .subscript pos value index usage => .subscript (r.place pos) (value.relabel r) (index.relabel r) usage
  | .starred pos value usage => .starred (r.place pos) (value.relabel r) usage
  | .name pos id usage => .name (r.place pos) (r.name id) usage
  | .list pos elts usage => .list (r.place pos) (relabelAll r elts) usage
  | .tuple pos elts usage => .tuple (r.place pos) (relabelAll r elts) usage
  | .slice pos lower upper step =>
    .slice (r.place pos) (relabelOption r lower) (relabelOption r upper) (relabelOption r step)

def relabelAll (r : Relabelling) : List Expr → List Expr
  | [] => []
  | e :: es => e.relabel r :: relabelAll r es

def relabelOption (r : Relabelling) : Option Expr → Option Expr
  | none => none
  | some e => some (e.relabel r)

def relabelOptions (r : Relabelling) : List (Option Expr) → List (Option Expr)
  | [] => []
  | e :: es => relabelOption r e :: relabelOptions r es

/-- The name of a parameter is declared and not used, and stays. -/
def Param.relabel (r : Relabelling) : Param → Param
  | ⟨pos, name, typeHint⟩ => ⟨r.place pos, name, relabelOption r typeHint⟩

def relabelParams (r : Relabelling) : List Param → List Param
  | [] => []
  | p :: ps => p.relabel r :: relabelParams r ps

def relabelParam? (r : Relabelling) : Option Param → Option Param
  | none => none
  | some p => some (p.relabel r)

def Params.relabel (r : Relabelling) : Params → Params
  | ⟨posOnly, regular, varArg, kwOnly, kwDefaults, kwArg, defaults⟩ =>
    ⟨relabelParams r posOnly, relabelParams r regular, relabelParam? r varArg, relabelParams r kwOnly,
      relabelOptions r kwDefaults, relabelParam? r kwArg, relabelAll r defaults⟩

def Keyword.relabel (r : Relabelling) : Keyword → Keyword
  | ⟨pos, name, value⟩ => ⟨r.place pos, name, value.relabel r⟩

def relabelKeywords (r : Relabelling) : List Keyword → List Keyword
  | [] => []
  | k :: ks => k.relabel r :: relabelKeywords r ks

def Comprehension.relabel (r : Relabelling) : Comprehension → Comprehension
  | ⟨target, iter, ifs, isAsync⟩ => ⟨target.relabel r, iter.relabel r, relabelAll r ifs, isAsync⟩

def relabelGenerators (r : Relabelling) : List Comprehension → List Comprehension
  | [] => []
  | g :: gs => g.relabel r :: relabelGenerators r gs

end

mutual

def Pattern.relabel (r : Relabelling) : Pattern → Pattern
  | .value pos value => .value (r.place pos) (value.relabel r)
  | .singleton pos value => .singleton (r.place pos) value
  | .sequence pos patterns => .sequence (r.place pos) (relabelPatterns r patterns)
  | .mapping pos keys patterns rest => .mapping (r.place pos) (relabelAll r keys) (relabelPatterns r patterns) rest
  | .classOf pos cls patterns attrs attrPatterns =>
    .classOf (r.place pos) (cls.relabel r) (relabelPatterns r patterns) attrs (relabelPatterns r attrPatterns)
  | .star pos name => .star (r.place pos) name
  | .capture pos inner name => .capture (r.place pos) (relabelPattern? r inner) name
  | .anyOf pos patterns => .anyOf (r.place pos) (relabelPatterns r patterns)

def relabelPatterns (r : Relabelling) : List Pattern → List Pattern
  | [] => []
  | p :: ps => p.relabel r :: relabelPatterns r ps

def relabelPattern? (r : Relabelling) : Option Pattern → Option Pattern
  | none => none
  | some p => some (p.relabel r)

end

/-- The name to which an import is bound is changed. Without a name of its own, an import gets one only if the
change makes it necessary. -/
def Alias.relabel (r : Relabelling) (a : Alias) : Alias where
  pos := r.place a.pos
  name := a.name
  asName :=
    match a.asName with
    | some bound => some (r.name bound)
    | none => if r.name a.name = a.name then none else some (r.name a.name)

def WithItem.relabel (r : Relabelling) (item : WithItem) : WithItem :=
  ⟨item.context.relabel r, relabelOption r item.target⟩

mutual

def Stmt.relabel (r : Relabelling) : Stmt → Stmt
  | .functionDef f => .functionDef (f.relabel r)
  | .classDef pos name bases keywords body decorators =>
    .classDef (r.place pos) name (relabelAll r bases) (relabelKeywords r keywords) (relabelStmts r body)
      (relabelAll r decorators)
  | .ret pos value => .ret (r.place pos) (relabelOption r value)
  | .delete pos targets => .delete (r.place pos) (relabelAll r targets)
  | .assign pos targets value => .assign (r.place pos) (relabelAll r targets) (value.relabel r)
  | .augAssign pos target op value => .augAssign (r.place pos) (target.relabel r) op (value.relabel r)
  | .annAssign pos target typeHint value =>
    .annAssign (r.place pos) (target.relabel r) (typeHint.relabel r) (relabelOption r value)
  | .forLoop pos isAsync target iter body orelse =>
    .forLoop (r.place pos) isAsync (target.relabel r) (iter.relabel r) (relabelStmts r body) (relabelStmts r orelse)
  | .whileLoop pos test body orelse =>
    .whileLoop (r.place pos) (test.relabel r) (relabelStmts r body) (relabelStmts r orelse)
  | .branch pos test body orelse =>
    .branch (r.place pos) (test.relabel r) (relabelStmts r body) (relabelStmts r orelse)
  | .withBlock pos isAsync items body =>
    .withBlock (r.place pos) isAsync (items.map (WithItem.relabel r)) (relabelStmts r body)
  | .choice pos subject cases => .choice (r.place pos) (subject.relabel r) (relabelCases r cases)
  | .raise pos exc cause => .raise (r.place pos) (relabelOption r exc) (relabelOption r cause)
  | .tryBlock pos isStar body handlers orelse finalBody =>
    .tryBlock (r.place pos) isStar (relabelStmts r body) (relabelHandlers r handlers) (relabelStmts r orelse)
      (relabelStmts r finalBody)
  | .assert pos test msg => .assert (r.place pos) (test.relabel r) (relabelOption r msg)
  | .importNames pos names => .importNames (r.place pos) (names.map (Alias.relabel r))
  | .importFrom pos module names level => .importFrom (r.place pos) module (names.map (Alias.relabel r)) level
  | .globalNames pos names => .globalNames (r.place pos) names
  | .nonlocalNames pos names => .nonlocalNames (r.place pos) names
  | .expr pos value => .expr (r.place pos) (value.relabel r)
  | .pass pos => .pass (r.place pos)
  | .breakLoop pos => .breakLoop (r.place pos)
  | .continueLoop pos => .continueLoop (r.place pos)

def FunctionDef.relabel (r : Relabelling) : FunctionDef → FunctionDef
  | ⟨pos, isAsync, name, params, body, decorators, returns⟩ =>
    ⟨r.place pos, isAsync, name, params.relabel r, relabelStmts r body, relabelAll r decorators,
      relabelOption r returns⟩

def relabelStmts (r : Relabelling) : List Stmt → List Stmt
  | [] => []
  | s :: ss => s.relabel r :: relabelStmts r ss

def Handler.relabel (r : Relabelling) : Handler → Handler
  | ⟨pos, type, name, body⟩ => ⟨r.place pos, relabelOption r type, name, relabelStmts r body⟩

def relabelHandlers (r : Relabelling) : List Handler → List Handler
  | [] => []
  | h :: hs => h.relabel r :: relabelHandlers r hs

def MatchCase.relabel (r : Relabelling) : MatchCase → MatchCase
  | ⟨pattern, guard, body⟩ => ⟨pattern.relabel r, relabelOption r guard, relabelStmts r body⟩

def relabelCases (r : Relabelling) : List MatchCase → List MatchCase
  | [] => []
  | c :: cs => c.relabel r :: relabelCases r cs

end

def Module.relabel (r : Relabelling) (m : Module) : Module := ⟨relabelStmts r m.body⟩

def Node.relabel (r : Relabelling) : Node → Node
  | .module m => .module (m.relabel r)
  | .stmt s => .stmt (s.relabel r)
  | .expr e => .expr (e.relabel r)
  | .params ps => .params (ps.relabel r)
  | .param p => .param (p.relabel r)
  | .keyword k => .keyword (k.relabel r)
  | .comprehension c => .comprehension (c.relabel r)
  | .handler h => .handler (h.relabel r)
  | .withItem item => .withItem (item.relabel r)
  | .matchCase c => .matchCase (c.relabel r)
  | .pattern p => .pattern (p.relabel r)
  | .importAlias a => .importAlias (a.relabel r)
  | .usage u => .usage u
  | .boolOp op => .boolOp op
  | .binOp op => .binOp op
  | .unaryOp op => .unaryOp op
  | .cmpOp op => .cmpOp op

def Occurrence.relabel (r : Relabelling) (o : Occurrence) : Occurrence := ⟨o.role, o.node.relabel r⟩

def Context.relabel (r : Relabelling) (c : Context) : Context :=
  ⟨Occurrence.relabel r c.value, c.above.map (Occurrence.relabel r)⟩

end TypingAudit.Ast
