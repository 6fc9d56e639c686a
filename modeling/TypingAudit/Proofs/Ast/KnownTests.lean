import TypingAudit.Ast.Context

/-!
What is known where an expression is reached. On the way down from a statement to an expression, the branch of a
conditional is reached only when its test holds or fails, and an operand of `and` or `or` only when all operands before
it hold or fail. The tests that are known in this way can be carried along on the way down, or gathered afterwards
on the way up.
-/

namespace TypingAudit.Ast

open Source (Position)

structure KnownTest where
  test : Expr
  holds : Bool

/-- An access to an element of a container, with the tests that are known where it is reached, those of the nearest
step first. -/
structure Access where
  pos : Position
  container : Expr
  index : Expr
  usage : Usage
  known : List KnownTest

def Access.expr (a : Access) : Expr := .subscript a.pos a.container a.index a.usage

section Down

mutual

/-- The accesses of an expression that is reached with the tests in `known`, from the top and left to right. -/
def Expr.accesses (known : List KnownTest) : Expr → List Access
  | .boolOp _ op values => operandAccesses op [] known values
  | .named _ target value => target.accesses known ++ value.accesses known
  | .binOp _ left _ right => left.accesses known ++ right.accesses known
  | .unaryOp _ _ operand => operand.accesses known
  | .lambda _ params body => params.accesses known ++ body.accesses known
  | .ifExp _ test body orelse =>
    test.accesses known ++ body.accesses (⟨test, true⟩ :: known) ++ orelse.accesses (⟨test, false⟩ :: known)
  | .dict _ keys values => optionsAccesses known keys ++ exprsAccesses known values
  | .set _ elts => exprsAccesses known elts
  | .listComp _ elt generators => elt.accesses known ++ generatorAccesses known generators
  | .setComp _ elt generators => elt.accesses known ++ generatorAccesses known generators
  | .dictComp _ key value generators =>
    key.accesses known ++ value.accesses known ++ generatorAccesses known generators
  | .generator _ elt generators => elt.accesses known ++ generatorAccesses known generators
  | .await _ value => value.accesses known
  | .yield _ value => optionAccesses known value
  | .yieldFrom _ value => value.accesses known
  | .compare _ left _ comparators => left.accesses known ++ exprsAccesses known comparators
  | .call _ func args keywords =>
    func.accesses known ++ exprsAccesses known args ++ keywordAccesses known keywords
  | .formatted _ value _ spec => value.accesses known ++ optionAccesses known spec
  | .joined _ values => exprsAccesses known values
  | .constant _ _ => []
  | .attribute _ value _ _ => value.accesses known
  | .subscript pos value index usage =>
    ⟨pos, value, index, usage, known⟩ :: (value.accesses known ++ index.accesses known)
  | .starred _ value _ => value.accesses known
  | .name _ _ _ => []
  | .list _ elts _ => exprsAccesses known elts
  | .tuple _ elts _ => exprsAccesses known elts
  | .slice _ lower upper step =>
    optionAccesses known lower ++ optionAccesses known upper ++ optionAccesses known step

/-- The operands of `and`, each reached when those before it hold, or of `or`, each reached when they fail. -/
def operandAccesses (op : BoolOp) (before known : List KnownTest) : List Expr → List Access
  | [] => []
  | e :: es => e.accesses (before ++ known) ++ operandAccesses op (before ++ [⟨e, op == .and⟩]) known es

def exprsAccesses (known : List KnownTest) : List Expr → List Access
  | [] => []
  | e :: es => e.accesses known ++ exprsAccesses known es

def optionAccesses (known : List KnownTest) : Option Expr → List Access
  | none => []
  | some e => e.accesses known

def optionsAccesses (known : List KnownTest) : List (Option Expr) → List Access
  | [] => []
  | e :: es => optionAccesses known e ++ optionsAccesses known es

def Param.accesses (known : List KnownTest) : Param → List Access
  | ⟨_, _, typeHint⟩ => optionAccesses known typeHint

def paramAccesses (known : List KnownTest) : List Param → List Access
  | [] => []
  | p :: ps => p.accesses known ++ paramAccesses known ps

def paramAccesses? (known : List KnownTest) : Option Param → List Access
  | none => []
  | some p => p.accesses known

def Params.accesses (known : List KnownTest) : Params → List Access
  | ⟨posOnly, regular, varArg, kwOnly, kwDefaults, kwArg, defaults⟩ =>
    paramAccesses known posOnly ++ paramAccesses known regular ++ paramAccesses? known varArg ++
      paramAccesses known kwOnly ++ optionsAccesses known kwDefaults ++ paramAccesses? known kwArg ++
      exprsAccesses known defaults

def Keyword.accesses (known : List KnownTest) : Keyword → List Access
  | ⟨_, _, value⟩ => value.accesses known

def keywordAccesses (known : List KnownTest) : List Keyword → List Access
  | [] => []
  | k :: ks => k.accesses known ++ keywordAccesses known ks

def Comprehension.accesses (known : List KnownTest) : Comprehension → List Access
  | ⟨target, iter, ifs, _⟩ => target.accesses known ++ iter.accesses known ++ exprsAccesses known ifs

def generatorAccesses (known : List KnownTest) : List Comprehension → List Access
  | [] => []
  | g :: gs => g.accesses known ++ generatorAccesses known gs

end

mutual

def Pattern.accesses (known : List KnownTest) : Pattern → List Access
  | .value _ value => value.accesses known
  | .singleton _ _ => []
  | .sequence _ patterns => patternAccesses known patterns
  | .mapping _ keys patterns _ => exprsAccesses known keys ++ patternAccesses known patterns
  | .classOf _ cls patterns _ attrPatterns =>
    cls.accesses known ++ patternAccesses known patterns ++ patternAccesses known attrPatterns
  | .star _ _ => []
  | .capture _ inner _ => patternAccesses? known inner
  | .anyOf _ patterns => patternAccesses known patterns

def patternAccesses (known : List KnownTest) : List Pattern → List Access
  | [] => []
  | p :: ps => p.accesses known ++ patternAccesses known ps

def patternAccesses? (known : List KnownTest) : Option Pattern → List Access
  | none => []
  | some p => p.accesses known

end

def WithItem.accesses (known : List KnownTest) (item : WithItem) : List Access :=
  item.context.accesses known ++ optionAccesses known item.target

mutual

/-- Nothing is known where a statement is reached. -/
def Stmt.accesses : Stmt → List Access
  | .functionDef f => f.accesses
  | .classDef _ _ bases keywords body decorators =>
    exprsAccesses [] bases ++ keywordAccesses [] keywords ++ stmtAccesses body ++ exprsAccesses [] decorators
  | .ret _ value => optionAccesses [] value
  | .delete _ targets => exprsAccesses [] targets
  | .assign _ targets value => exprsAccesses [] targets ++ value.accesses []
  | .augAssign _ target _ value => target.accesses [] ++ value.accesses []
  | .annAssign _ target typeHint value =>
    target.accesses [] ++ typeHint.accesses [] ++ optionAccesses [] value
  | .forLoop _ _ target iter body orelse =>
    target.accesses [] ++ iter.accesses [] ++ stmtAccesses body ++ stmtAccesses orelse
  | .whileLoop _ test body orelse => test.accesses [] ++ stmtAccesses body ++ stmtAccesses orelse
  | .branch _ test body orelse => test.accesses [] ++ stmtAccesses body ++ stmtAccesses orelse
  | .withBlock _ _ items body => items.flatMap (WithItem.accesses []) ++ stmtAccesses body
  | .choice _ subject cases => subject.accesses [] ++ caseAccesses [] cases
  | .raise _ exc cause => optionAccesses [] exc ++ optionAccesses [] cause
  | .tryBlock _ _ body handlers orelse finalBody =>
    stmtAccesses body ++ handlerAccesses [] handlers ++ stmtAccesses orelse ++ stmtAccesses finalBody
  | .assert _ test msg => test.accesses [] ++ optionAccesses [] msg
  | .importNames _ _ => []
  | .importFrom _ _ _ _ => []
  | .globalNames _ _ => []
  | .nonlocalNames _ _ => []
  | .expr _ value => value.accesses []
  | .pass _ => []
  | .breakLoop _ => []
  | .continueLoop _ => []

def FunctionDef.accesses : FunctionDef → List Access
  | ⟨_, _, _, params, body, decorators, returns⟩ =>
    params.accesses [] ++ stmtAccesses body ++ exprsAccesses [] decorators ++ optionAccesses [] returns

def stmtAccesses : List Stmt → List Access
  | [] => []
  | s :: ss => s.accesses ++ stmtAccesses ss

def Handler.accesses (known : List KnownTest) : Handler → List Access
  | ⟨_, type, _, body⟩ => optionAccesses known type ++ stmtAccesses body

def handlerAccesses (known : List KnownTest) : List Handler → List Access
  | [] => []
  | h :: hs => h.accesses known ++ handlerAccesses known hs

def MatchCase.accesses (known : List KnownTest) : MatchCase → List Access
  | ⟨pattern, guard, body⟩ => pattern.accesses known ++ optionAccesses known guard ++ stmtAccesses body

def caseAccesses (known : List KnownTest) : List MatchCase → List Access
  | [] => []
  | c :: cs => c.accesses known ++ caseAccesses known cs

end

def Module.accesses (m : Module) : List Access := stmtAccesses m.body

end Down

section Up

/-- What becomes known by the step from a node to its child in a role. -/
def madeKnown : Node → Role → List KnownTest
  | .expr (.ifExp _ test _ _), .thenBranch => [⟨test, true⟩]
  | .expr (.ifExp _ test _ _), .elseBranch => [⟨test, false⟩]
  | .expr (.boolOp _ op values), .operand index =>
    (values.take index).map fun e => ⟨e, op == .and⟩
  | _, _ => []

/-- What is known in a role under a path, by the steps since the nearest statement. -/
def knownAt (role : Role) : List Occurrence → List KnownTest
  | [] => []
  | parent :: above =>
    match parent.node with
    | .stmt _ => []
    | node => madeKnown node role ++ knownAt parent.role above

def access? (c : Context) : Option Access :=
  match c.node with
  | .expr (.subscript pos value index usage) => some ⟨pos, value, index, usage, knownAt c.role c.above⟩
  | _ => none

end Up

end TypingAudit.Ast
