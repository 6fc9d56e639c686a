import TypingAudit.Ast.Node
import TypingAudit.Ast.Printer

/-!
When two expressions are written alike: they agree in everything but their places. They are compared by a full account
of all that they are made of, which an integer with too many digits does not have.
-/

namespace TypingAudit.Ast

def Node.isLongInteger : Node → Bool
  | .expr (.constant _ (.int n)) => Nat.pow 10 maxIntegerDigits ≤ n
  | _ => false

def Expr.hasLongInteger (e : Expr) : Bool := (e.tree .other).any fun o => o.node.isLongInteger

/-- Fails for an expression of which no full account can be given. -/
def Expr.giveAccount (e : Expr) : Except PrintError Unit :=
  if e.hasLongInteger then .error .integerTooLong else .ok ()

mutual

/-- Whether two expressions agree in everything but their places. -/
def Expr.same : Expr → Expr → Bool
  | .boolOp _ op values, other =>
    match other with
    | .boolOp _ op' values' => op == op' && sameAll values values'
    | _ => false
  | .named _ target value, other =>
    match other with
    | .named _ target' value' => target.same target' && value.same value'
    | _ => false
  | .binOp _ left op right, other =>
    match other with
    | .binOp _ left' op' right' => left.same left' && op == op' && right.same right'
    | _ => false
  | .unaryOp _ op operand, other =>
    match other with
    | .unaryOp _ op' operand' => op == op' && operand.same operand'
    | _ => false
  | .lambda _ params body, other =>
    match other with
    | .lambda _ params' body' => params.same params' && body.same body'
    | _ => false
  | .ifExp _ test body orelse, other =>
    match other with
    | .ifExp _ test' body' orelse' =>
      test.same test' && body.same body' && orelse.same orelse'
    | _ => false
  | .dict _ keys values, other =>
    match other with
    | .dict _ keys' values' => sameOptions keys keys' && sameAll values values'
    | _ => false
  | .set _ elts, other =>
    match other with
    | .set _ elts' => sameAll elts elts'
    | _ => false
  | .listComp _ elt generators, other =>
    match other with
    | .listComp _ elt' generators' => elt.same elt' && sameGenerators generators generators'
    | _ => false
  | .setComp _ elt generators, other =>
    match other with
    | .setComp _ elt' generators' => elt.same elt' && sameGenerators generators generators'
    | _ => false
  | .dictComp _ key value generators, other =>
    match other with
    | .dictComp _ key' value' generators' =>
      key.same key' && value.same value' && sameGenerators generators generators'
    | _ => false
  | .generator _ elt generators, other =>
    match other with
    | .generator _ elt' generators' => elt.same elt' && sameGenerators generators generators'
    | _ => false
  | .await _ value, other =>
    match other with
    | .await _ value' => value.same value'
    | _ => false
  | .yield _ value, other =>
    match other with
    | .yield _ value' => sameOption value value'
    | _ => false
  | .yieldFrom _ value, other =>
    match other with
    | .yieldFrom _ value' => value.same value'
    | _ => false
  | .compare _ left ops comparators, other =>
    match other with
    | .compare _ left' ops' comparators' =>
      left.same left' && ops == ops' && sameAll comparators comparators'
    | _ => false
  | .call _ func args keywords, other =>
    match other with
    | .call _ func' args' keywords' =>
      func.same func' && sameAll args args' && sameKeywords keywords keywords'
    | _ => false
  | .formatted _ value conversion spec, other =>
    match other with
    | .formatted _ value' conversion' spec' =>
      value.same value' && conversion == conversion' && sameOption spec spec'
    | _ => false
  | .joined _ values, other =>
    match other with
    | .joined _ values' => sameAll values values'
    | _ => false
  | .constant _ value, other =>
    match other with
    | .constant _ value' => value == value'
    | _ => false
  | .attribute _ value attr usage, other =>
    match other with
    | .attribute _ value' attr' usage' => value.same value' && attr == attr' && usage == usage'
    | _ => false
  | .subscript _ value index usage, other =>
    match other with
    | .subscript _ value' index' usage' =>
      value.same value' && index.same index' && usage == usage'
    | _ => false
  | .starred _ value usage, other =>
    match other with
    | .starred _ value' usage' => value.same value' && usage == usage'
    | _ => false
  | .name _ id usage, other =>
    match other with
    | .name _ id' usage' => id == id' && usage == usage'
    | _ => false
  | .list _ elts usage, other =>
    match other with
    | .list _ elts' usage' => sameAll elts elts' && usage == usage'
    | _ => false
  | .tuple _ elts usage, other =>
    match other with
    | .tuple _ elts' usage' => sameAll elts elts' && usage == usage'
    | _ => false
  | .slice _ lower upper step, other =>
    match other with
    | .slice _ lower' upper' step' =>
      sameOption lower lower' && sameOption upper upper' && sameOption step step'
    | _ => false

def sameAll : List Expr → List Expr → Bool
  | [], [] => true
  | e :: es, e' :: es' => e.same e' && sameAll es es'
  | _, _ => false

def sameOption : Option Expr → Option Expr → Bool
  | none, none => true
  | some e, some e' => e.same e'
  | _, _ => false

def sameOptions : List (Option Expr) → List (Option Expr) → Bool
  | [], [] => true
  | e :: es, e' :: es' => sameOption e e' && sameOptions es es'
  | _, _ => false

def Param.same : Param → Param → Bool
  | ⟨_, name, typeHint⟩, p => name == p.name && sameOption typeHint p.typeHint

def sameParams : List Param → List Param → Bool
  | [], [] => true
  | p :: ps, p' :: ps' => p.same p' && sameParams ps ps'
  | _, _ => false

def sameParam? : Option Param → Option Param → Bool
  | none, none => true
  | some p, some p' => p.same p'
  | _, _ => false

def Params.same : Params → Params → Bool
  | ⟨posOnly, regular, varArg, kwOnly, kwDefaults, kwArg, defaults⟩, ps =>
    sameParams posOnly ps.posOnly && sameParams regular ps.regular &&
      sameParam? varArg ps.varArg && sameParams kwOnly ps.kwOnly &&
      sameOptions kwDefaults ps.kwDefaults && sameParam? kwArg ps.kwArg &&
      sameAll defaults ps.defaults

def Keyword.same : Keyword → Keyword → Bool
  | ⟨_, name, value⟩, k => name == k.name && value.same k.value

def sameKeywords : List Keyword → List Keyword → Bool
  | [], [] => true
  | k :: ks, k' :: ks' => k.same k' && sameKeywords ks ks'
  | _, _ => false

def Comprehension.same : Comprehension → Comprehension → Bool
  | ⟨target, iter, ifs, isAsync⟩, c =>
    target.same c.target && iter.same c.iter && sameAll ifs c.ifs && isAsync == c.isAsync

def sameGenerators : List Comprehension → List Comprehension → Bool
  | [], [] => true
  | g :: gs, g' :: gs' => g.same g' && sameGenerators gs gs'
  | _, _ => false

end

end TypingAudit.Ast
