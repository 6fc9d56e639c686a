import TypingAudit.Source.Grammar.Atom

/-!
Operators, from the tightest to the loosest, and expression lists. Binary operators of one level group to
the left, except the power operator; comparisons chain; `and` and `or` take all operands of a run at once.
-/

namespace TypingAudit.Source.Grammar

open Ast

def awaited (inner : Rules) : Parser Expr := do
  let pos ← here
  if ← eatKeyword "await" then
    let value ← primary inner
    pure (.await pos value)
  else primary inner

def power (inner : Rules) : Parser Expr := do
  let pos ← here
  let base ← awaited inner
  if ← eatOp "**" then
    let exponent ← inner.factor
    pure (.binOp pos base .pow exponent)
  else pure base

def factorOp? : Option Lexeme → Option UnaryOp
  | some (.op "+") => some .plus
  | some (.op "-") => some .minus
  | some (.op "~") => some .invert
  | _ => none

def factor (inner : Rules) : Parser Expr := do
  let pos ← here
  match factorOp? (← peek) with
  | some operator =>
    skip
    let operand ← inner.factor
    pure (.unaryOp pos operator operand)
  | none => power inner

/-- A run of operands joined by operators of one level, grouped to the left. -/
def leftGrouped (inner : Rules) (operator? : String → Option BinOp) (operand : Parser Expr) :
    Parser Expr := do
  let pos ← here
  let first ← operand
  let step (left : Expr) : Parser Expr := do
    match ← peek with
    | some (.op symbol) =>
      match operator? symbol with
      | some operator =>
        skip
        let right ← operand
        pure (.binOp pos left operator right)
      | none => failure
    | _ => failure
  extendWhile step inner.limit first

def term (inner : Rules) : Parser Expr :=
  leftGrouped inner (fun
    | "*" => some .mult | "/" => some .div | "//" => some .floorDiv | "%" => some .mod
    | "@" => some .matMult | _ => none) (factor inner)

def sum (inner : Rules) : Parser Expr :=
  leftGrouped inner (fun | "+" => some .add | "-" => some .sub | _ => none) (term inner)

def shift (inner : Rules) : Parser Expr :=
  leftGrouped inner (fun | "<<" => some .lShift | ">>" => some .rShift | _ => none) (sum inner)

def bitwiseAnd (inner : Rules) : Parser Expr :=
  leftGrouped inner (fun | "&" => some .bitAnd | _ => none) (shift inner)

def bitwiseXor (inner : Rules) : Parser Expr :=
  leftGrouped inner (fun | "^" => some .bitXor | _ => none) (bitwiseAnd inner)

def bitwiseOr (inner : Rules) : Parser Expr :=
  leftGrouped inner (fun | "|" => some .bitOr | _ => none) (bitwiseXor inner)

def comparisonOp : Parser CmpOp := do
  let first ← peek
  skip
  match first with
  | some (.op "==") => pure .eq
  | some (.op "!=") => pure .notEq
  | some (.op "<=") => pure .ltE
  | some (.op "<") => pure .lt
  | some (.op ">=") => pure .gtE
  | some (.op ">") => pure .gt
  | some (.keyword "in") => pure .isIn
  | some (.keyword "not") =>
    keyword "in"
    pure .notIn
  | some (.keyword "is") => if ← eatKeyword "not" then pure .isNot else pure .is
  | _ => failure

def comparison (inner : Rules) : Parser Expr := do
  let pos ← here
  let left ← bitwiseOr inner
  let links ← many (do
    let operator ← comparisonOp
    let right ← bitwiseOr inner
    pure (operator, right)) inner.limit
  if links.isEmpty then pure left
  else pure (.compare pos left (links.map (·.1)) (links.map (·.2)))

def inversion (inner : Rules) : Parser Expr := do
  let pos ← here
  if ← eatKeyword "not" then
    let operand ← inner.inversion
    pure (.unaryOp pos .not operand)
  else comparison inner

def joined (inner : Rules) (word : String) (operator : BoolOp) (operand : Parser Expr) :
    Parser Expr := do
  let pos ← here
  let first ← operand
  let later ← many (do keyword word; operand) inner.limit
  if later.isEmpty then pure first else pure (.boolOp pos operator (first :: later))

def conjunction (inner : Rules) : Parser Expr := joined inner "and" .and (inversion inner)

def disjunction (inner : Rules) : Parser Expr := joined inner "or" .or (conjunction inner)

def lambda (inner : Rules) : Parser Expr := do
  let pos ← here
  keyword "lambda"
  let params ← params inner .lambda
  op ":"
  let body ← inner.expression
  pure (.lambda pos params body)

def expression (inner : Rules) : Parser Expr := do
  let pos ← here
  if ← nextIsKeyword "lambda" then lambda inner
  else
    let body ← disjunction inner
    if ← eatKeyword "if" then
      let test ← disjunction inner
      keyword "else"
      let orelse ← inner.expression
      pure (.ifExp pos test body orelse)
    else pure body

def namedExpression (inner : Rules) : Parser Expr := do
  let pos ← here
  if ← nextIsBinding then
    let id ← name
    op ":="
    let value ← inner.expression
    pure (.named pos (.name pos id .store) value)
  else
    let value ← expression inner
    if ← nextIsOp ":=" then failure
    pure value

def starExpression (inner : Rules) : Parser Expr := do
  let pos ← here
  if ← eatOp "*" then
    let value ← bitwiseOr inner
    pure (.starred pos value .load)
  else expression inner

/-- Items separated by commas, without parentheses: one item stands for itself, and several, or one with
a comma after it, form a tuple. -/
def tupleOf (inner : Rules) (item : Parser Expr) : Parser Expr := do
  let pos ← here
  let first ← item
  let later ← many (do op ","; item) inner.limit
  let comma ← eatOp ","
  if later.isEmpty && !comma then pure first else pure (.tuple pos (first :: later) .load)

def starExpressions (inner : Rules) : Parser Expr := tupleOf inner (starExpression inner)

def expressions (inner : Rules) : Parser Expr := tupleOf inner (expression inner)

end TypingAudit.Source.Grammar
