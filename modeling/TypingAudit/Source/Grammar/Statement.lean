import TypingAudit.Source.Grammar.Expression
import TypingAudit.Source.Grammar.Pattern

/-!
Simple statements, which share lines, and compound statements, which own blocks.
-/

namespace TypingAudit.Source.Grammar

open Ast

def dottedName (inner : Rules) : Parser String := do
  let first ← name
  let later ← many (do op "."; name) inner.limit
  pure (".".intercalate (first :: later))

def asName : Parser (Option String) := do
  if ← eatKeyword "as" then some <$> name else pure none

def importNames (inner : Rules) (pos : Position) : Parser Stmt := do
  keyword "import"
  let names ← commaSeparated (do
    let aliasPos ← here
    let id ← dottedName inner
    let bound ← asName
    pure (⟨aliasPos, id, bound⟩ : Alias)) inner.limit
  pure (.importNames pos names)

def importDots (inner : Rules) : Parser Nat := do
  let dots ← many (do
    match ← peek with
    | some (.op ".") =>
      skip
      pure 1
    | some (.op "...") =>
      skip
      pure 3
    | _ => failure) inner.limit
  pure (dots.foldl (· + ·) 0)

def importedName : Parser Alias := do
  let pos ← here
  let id ← name
  let bound ← asName
  pure ⟨pos, id, bound⟩

def importedNames (inner : Rules) : Parser (List Alias) := do
  let pos ← here
  if ← eatOp "*" then pure [⟨pos, "*", none⟩]
  else if ← eatOp "(" then
    let first ← importedName
    let later ← moreElements importedName ")" inner.limit
    pure (first :: later)
  else commaSeparated importedName inner.limit

def importFrom (inner : Rules) (pos : Position) : Parser Stmt := do
  keyword "from"
  let level ← importDots inner
  let module ← optional (dottedName inner)
  if level = 0 && module.isNone then failure
  keyword "import"
  let names ← importedNames inner
  pure (.importFrom pos module names level)

def raiseStmt (inner : Rules) (pos : Position) : Parser Stmt := do
  keyword "raise"
  match ← optional inner.expression with
  | none => pure (.raise pos none none)
  | some exc =>
    let cause ← if ← eatKeyword "from" then some <$> inner.expression else pure none
    pure (.raise pos (some exc) cause)

def deleteStmt (inner : Rules) (pos : Position) : Parser Stmt := do
  keyword "del"
  let targets ← commaSeparated (do
    let value ← inner.primary
    orFail (toTarget .del value)) inner.limit
  let _ ← eatOp ","
  pure (.delete pos targets)

def assertStmt (inner : Rules) (pos : Position) : Parser Stmt := do
  keyword "assert"
  let test ← inner.expression
  let msg ← if ← eatOp "," then some <$> inner.expression else pure none
  pure (.assert pos test msg)

def augmentedOp? : Option Lexeme → Option BinOp
  | some (.op "+=") => some .add
  | some (.op "-=") => some .sub
  | some (.op "*=") => some .mult
  | some (.op "@=") => some .matMult
  | some (.op "/=") => some .div
  | some (.op "%=") => some .mod
  | some (.op "&=") => some .bitAnd
  | some (.op "|=") => some .bitOr
  | some (.op "^=") => some .bitXor
  | some (.op "<<=") => some .lShift
  | some (.op ">>=") => some .rShift
  | some (.op "**=") => some .pow
  | some (.op "//=") => some .floorDiv
  | _ => none

def assigned (inner : Rules) : Parser Expr := do
  if ← nextIsKeyword "yield" then yieldExpr inner else inner.starExpressions

/-- The right side after `targets =`: as long as another `=` follows, what was read is a target too. -/
def assignChain (inner : Rules) (pos : Position) : Nat → List Expr → Parser Stmt
  | 0, _ => failure
  | limit + 1, targets => do
    let isYield ← nextIsKeyword "yield"
    let value ← assigned inner
    if ← eatOp "=" then
      if isYield then failure
      let target ← orFail (toTarget .store value)
      assignChain inner pos limit (target :: targets)
    else pure (.assign pos targets.reverse value)

def expressionStmt (inner : Rules) (pos : Position) : Parser Stmt := do
  let first ← inner.starExpressions
  let next ← peek
  match augmentedOp? next with
  | some operator =>
    skip
    let target ← orFail (toSingleTarget first)
    let value ← assigned inner
    pure (.augAssign pos target operator value)
  | none =>
    if ← eatOp "=" then
      let target ← orFail (toTarget .store first)
      assignChain inner pos inner.limit [target]
    else if ← eatOp ":" then
      let target ← orFail (toSingleTarget first)
      let typeHint ← inner.expression
      let value ← if ← eatOp "=" then some <$> assigned inner else pure none
      pure (.annAssign pos target typeHint value)
    else pure (.expr pos first)

def simpleStmt (inner : Rules) : Parser Stmt := do
  let pos ← here
  match ← peek with
  | some (.keyword word) =>
    match word with
    | "return" =>
      skip
      let value ← optional inner.starExpressions
      pure (.ret pos value)
    | "import" => importNames inner pos
    | "from" => importFrom inner pos
    | "raise" => raiseStmt inner pos
    | "pass" =>
      skip
      pure (.pass pos)
    | "del" => deleteStmt inner pos
    | "yield" => .expr pos <$> yieldExpr inner
    | "assert" => assertStmt inner pos
    | "break" =>
      skip
      pure (.breakLoop pos)
    | "continue" =>
      skip
      pure (.continueLoop pos)
    | "global" =>
      skip
      .globalNames pos <$> commaSeparated name inner.limit
    | "nonlocal" =>
      skip
      .nonlocalNames pos <$> commaSeparated name inner.limit
    | _ => expressionStmt inner pos
  | _ => expressionStmt inner pos

def simpleStmts (inner : Rules) : Parser (List Stmt) := do
  let first ← simpleStmt inner
  let later ← many (do op ";"; simpleStmt inner) inner.limit
  let _ ← eatOp ";"
  newline
  pure (first :: later)

def elseBlock (inner : Rules) : Parser (List Stmt) := do
  if ← eatKeyword "else" then
    op ":"
    inner.block
  else pure []

/-- What follows the block of an `if`: further conditions nest inside. -/
def orElse (inner : Rules) : Parser (List Stmt) := do
  let pos ← here
  if ← eatKeyword "elif" then
    let test ← inner.named
    op ":"
    let body ← inner.block
    let rest ← inner.orElse
    pure [.branch pos test body rest]
  else elseBlock inner

def ifStmt (inner : Rules) (pos : Position) : Parser Stmt := do
  keyword "if"
  let test ← inner.named
  op ":"
  let body ← inner.block
  let rest ← inner.orElse
  pure (.branch pos test body rest)

def whileStmt (inner : Rules) (pos : Position) : Parser Stmt := do
  keyword "while"
  let test ← inner.named
  op ":"
  let body ← inner.block
  let rest ← elseBlock inner
  pure (.whileLoop pos test body rest)

def forStmt (inner : Rules) (pos : Position) (isAsync : Bool) : Parser Stmt := do
  keyword "for"
  let target ← loopTargets inner
  keyword "in"
  let iter ← inner.starExpressions
  op ":"
  let body ← inner.block
  let rest ← elseBlock inner
  pure (.forLoop pos isAsync target iter body rest)

def withItem (inner : Rules) : Parser WithItem := do
  let context ← inner.expression
  let target ← if ← eatKeyword "as" then some <$> loopTarget inner else pure none
  pure ⟨context, target⟩

/-- Items in parentheses, with the colon that shows that the parentheses hold the items. -/
def enclosedItems (inner : Rules) : Parser (List WithItem) := do
  op "("
  let first ← withItem inner
  let later ← moreElements (withItem inner) ")" inner.limit
  op ":"
  pure (first :: later)

def openItems (inner : Rules) : Parser (List WithItem) := do
  let items ← commaSeparated (withItem inner) inner.limit
  op ":"
  pure items

def withStmt (inner : Rules) (pos : Position) (isAsync : Bool) : Parser Stmt := do
  keyword "with"
  let items ← match ← optional (enclosedItems inner) with
    | some items => pure items
    | none => openItems inner
  let body ← inner.block
  pure (.withBlock pos isAsync items body)

/-- One handler; `isStar` tells which of the two kinds the statement has. -/
def handler (inner : Rules) (isStar : Bool) : Parser Handler := do
  let pos ← here
  keyword "except"
  if isStar then op "*"
  if !isStar && (← eatOp ":") then
    let body ← inner.block
    pure ⟨pos, none, none, body⟩
  else
    let type ← inner.expression
    let bound ← asName
    op ":"
    let body ← inner.block
    pure ⟨pos, some type, bound, body⟩

def finallyBlock (inner : Rules) : Parser (List Stmt) := do
  keyword "finally"
  op ":"
  inner.block

def nextIsStarHandler : Parser Bool := fun tokens =>
  match tokens with
  | ⟨.keyword "except", _⟩ :: ⟨.op "*", _⟩ :: _ => some (true, tokens)
  | _ => some (false, tokens)

def tryStmt (inner : Rules) (pos : Position) : Parser Stmt := do
  keyword "try"
  op ":"
  let body ← inner.block
  if ← nextIsKeyword "finally" then
    let finalBody ← finallyBlock inner
    pure (.tryBlock pos false body [] [] finalBody)
  else
    let isStar ← nextIsStarHandler
    let handlers ← many1 (handler inner isStar) inner.limit
    let orelse ← elseBlock inner
    let finalBody ← if ← nextIsKeyword "finally" then finallyBlock inner else pure []
    pure (.tryBlock pos isStar body handlers orelse finalBody)

def functionDef (inner : Rules) (pos : Position) (isAsync : Bool) (decorators : List Expr) :
    Parser Stmt := do
  keyword "def"
  let id ← name
  op "("
  let params ← params inner .signature
  op ")"
  let returns ← if ← eatOp "->" then some <$> inner.expression else pure none
  op ":"
  let body ← inner.block
  pure (.functionDef ⟨pos, isAsync, id, params, body, decorators, returns⟩)

def classDef (inner : Rules) (pos : Position) (decorators : List Expr) : Parser Stmt := do
  keyword "class"
  let id ← name
  let (bases, keywords) ← if ← eatOp "(" then arguments inner none else pure ([], [])
  op ":"
  let body ← inner.block
  pure (.classDef pos id bases keywords body decorators)

def decorator (inner : Rules) : Parser Expr := do
  op "@"
  let value ← inner.named
  newline
  pure value

def decorated (inner : Rules) : Parser Stmt := do
  let decorators ← many1 (decorator inner) inner.limit
  let pos ← here
  if ← nextIsKeyword "class" then classDef inner pos decorators
  else
    let isAsync ← eatKeyword "async"
    functionDef inner pos isAsync decorators

def asyncStmt (inner : Rules) (pos : Position) : Parser Stmt := do
  keyword "async"
  if ← nextIsKeyword "def" then functionDef inner pos true []
  else if ← nextIsKeyword "with" then withStmt inner pos true
  else forStmt inner pos true

def caseBlock (inner : Rules) : Parser MatchCase := do
  softKeyword "case"
  let found ← patterns inner
  let guard ← if ← eatKeyword "if" then some <$> inner.named else pure none
  op ":"
  let body ← inner.block
  pure ⟨found, guard, body⟩

def subject (inner : Rules) : Parser Expr := do
  let pos ← here
  let first ← element inner
  if ← nextIsOp "," then
    let later ← many (do op ","; element inner) inner.limit
    let _ ← eatOp ","
    pure (.tuple pos (first :: later) .load)
  else if isStarred first then failure
  else pure first

def matchStmt (inner : Rules) (pos : Position) : Parser Stmt := do
  softKeyword "match"
  let value ← subject inner
  op ":"
  newline
  indent
  let cases ← many1 (caseBlock inner) inner.limit
  dedent
  pure (.choice pos value cases)

def compoundKeyword? (word : String) : Option (Rules → Position → Parser Stmt) :=
  match word with
  | "if" => some ifStmt
  | "while" => some whileStmt
  | "for" => some fun inner pos => forStmt inner pos false
  | "with" => some fun inner pos => withStmt inner pos false
  | "try" => some tryStmt
  | "def" => some fun inner pos => functionDef inner pos false []
  | "class" => some fun inner pos => classDef inner pos []
  | "async" => some asyncStmt
  | _ => none

def statement (inner : Rules) : Parser (List Stmt) := do
  let pos ← here
  match ← peek with
  | some (.keyword word) =>
    match compoundKeyword? word with
    | some rule => return [← rule inner pos]
    | none => simpleStmts inner
  | some (.op "@") => return [← decorated inner]
  | some (.name "match") =>
    match ← optional (matchStmt inner pos) with
    | some found => pure [found]
    | none => simpleStmts inner
  | _ => simpleStmts inner

def statements (inner : Rules) : Parser (List Stmt) :=
  List.flatten <$> many (statement inner) inner.limit

/-- The body of a compound statement: indented lines, or simple statements on the same line. -/
def block (inner : Rules) : Parser (List Stmt) := do
  if ← eat (fun | .newline => true | _ => false) then
    indent
    let body ← many1 (statement inner) inner.limit
    dedent
    pure body.flatten
  else simpleStmts inner

end TypingAudit.Source.Grammar
