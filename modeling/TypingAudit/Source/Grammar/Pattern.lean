import TypingAudit.Source.Grammar.Atom

/-!
Patterns of `case` blocks.
-/

namespace TypingAudit.Source.Grammar

open Ast

def numberConstant : Parser Constant
  | ⟨.number value, _⟩ :: tokens => some (value, tokens)
  | _ => none

def isImaginary : Constant → Bool
  | .imaginary _ => true
  | _ => false

/-- A number with an optional sign, then possibly an imaginary number added or subtracted. -/
def signedNumber : Parser Expr := do
  let pos ← here
  let negative ← eatOp "-"
  let numberPos ← here
  let value ← numberConstant
  let number : Expr := .constant numberPos value
  let left : Expr := if negative then .unaryOp pos .minus number else number
  let combine (operator : BinOp) : Parser Expr := do
    let rightPos ← here
    let right ← numberConstant
    if isImaginary value || !isImaginary right then failure
    pure (.binOp pos left operator (.constant rightPos right))
  if ← eatOp "+" then combine .add
  else if ← eatOp "-" then combine .sub
  else pure left

def singleton? : String → Option Constant
  | "None" => some .none
  | "True" => some (.bool true)
  | "False" => some (.bool false)
  | _ => none

/-- What must not follow a name that is captured or a dotted name that is compared. -/
def notContinued : Parser Unit := do
  if ← nextIs (fun l => l.isOp "." || l.isOp "(" || l.isOp "=") then failure
  pure ()

def dottedRest (inner : Rules) (pos : Position) (value : Expr) : Parser Expr :=
  extendWhile (fun value => do
    op "."
    let attr ← name
    pure (.attribute pos value attr .load)) inner.limit value

def captureName : Parser String := do
  let id ← name
  if id == "_" then failure
  notContinued
  pure id

/-- The name a starred pattern captures; an underscore captures nothing. -/
def starTarget : Parser (Option String) := do
  let id ← name
  if id == "_" then pure none
  else
    notContinued
    pure (some id)

def starPattern (inner : Rules) : Parser Pattern := do
  let pos ← here
  if ← eatOp "*" then
    let target ← starTarget
    pure (.star pos target)
  else inner.pattern

def patternsUpTo (inner : Rules) (closing : String) : Parser (List Pattern) := do
  if ← eatOp closing then pure []
  else
    let first ← starPattern inner
    let later ← moreElements (starPattern inner) closing inner.limit
    pure (first :: later)

def parenthesizedPattern (inner : Rules) (pos : Position) : Parser Pattern := do
  if ← eatOp ")" then pure (.sequence pos [])
  else
    let first ← starPattern inner
    if ← nextIsOp "," then
      let later ← moreElements (starPattern inner) ")" inner.limit
      pure (.sequence pos (first :: later))
    else
      op ")"
      match first with
      | .star .. => failure
      | _ => pure first

def mappingKey (inner : Rules) : Parser Expr := do
  let pos ← here
  match ← peek with
  | some (.number _) => signedNumber
  | some (.op "-") => signedNumber
  | some (.string _) => strings inner
  | some (.keyword word) =>
    skip
    let value ← orFail (singleton? word)
    pure (.constant pos value)
  | some (.name id) =>
    skip
    if ← nextIsOp "." then dottedRest inner pos (.name pos id .load) else failure
  | _ => failure

def keyPattern (inner : Rules) : Parser (Expr × Pattern) := do
  let key ← mappingKey inner
  op ":"
  let value ← inner.pattern
  pure (key, value)

def mappingRest : Parser (Option String) := do
  if ← eatOp "**" then
    let target ← captureName
    let _ ← eatOp ","
    op "\x7d"
    pure (some target)
  else
    op "\x7d"
    pure none

def mappingPattern (inner : Rules) (pos : Position) : Parser Pattern := do
  let entries ← match ← optional (keyPattern inner) with
    | none => pure []
    | some first =>
      let later ← many (do op ","; keyPattern inner) inner.limit
      let _ ← if ← nextIsOp "\x7d" then pure () else op ","
      pure (first :: later)
  let rest ← mappingRest
  pure (.mapping pos (entries.map (·.1)) (entries.map (·.2)) rest)

def classArgument (inner : Rules) : Parser (Option String × Pattern) := do
  if ← nextIsKeywordArgument then
    let attr ← name
    op "="
    let value ← inner.pattern
    pure (some attr, value)
  else
    let value ← inner.pattern
    pure (none, value)

def positionalFirst : List (Option String × Pattern) → Bool
  | [] => true
  | (none, _) :: rest => positionalFirst rest
  | (some _, _) :: rest => rest.all (·.1.isSome)

def classPattern (inner : Rules) (pos : Position) (cls : Expr) : Parser Pattern := do
  op "("
  let entries ←
    if ← eatOp ")" then pure []
    else
      let first ← classArgument inner
      let later ← moreElements (classArgument inner) ")" inner.limit
      pure (first :: later)
  if !positionalFirst entries then failure
  let named := entries.filterMap fun (attr, value) => attr.map (·, value)
  pure (.classOf pos cls ((entries.filter (·.1.isNone)).map (·.2)) (named.map (·.1)) (named.map (·.2)))

/-- A pattern that starts with a name: a wildcard, a capture, a dotted value, or a class. -/
def namePattern (inner : Rules) (pos : Position) (id : String) : Parser Pattern := do
  if id == "_" then pure (.capture pos none none)
  else
    let value ← dottedRest inner pos (.name pos id .load)
    if ← nextIsOp "(" then classPattern inner pos value
    else
      notContinued
      match value with
      | .name .. => pure (.capture pos none (some id))
      | _ => pure (.value pos value)

def closedPattern (inner : Rules) : Parser Pattern := do
  let pos ← here
  match ← peek with
  | some (.number _) => .value pos <$> signedNumber
  | some (.op "-") => .value pos <$> signedNumber
  | some (.string _) => .value pos <$> strings inner
  | some (.keyword word) =>
    skip
    let value ← orFail (singleton? word)
    pure (.singleton pos value)
  | some (.name id) =>
    skip
    namePattern inner pos id
  | some (.op "(") =>
    skip
    parenthesizedPattern inner pos
  | some (.op "[") =>
    skip
    let found ← patternsUpTo inner "]"
    pure (.sequence pos found)
  | some (.op "\x7b") =>
    skip
    mappingPattern inner pos
  | _ => failure

def orPattern (inner : Rules) : Parser Pattern := do
  let pos ← here
  let first ← closedPattern inner
  let later ← many (do op "|"; closedPattern inner) inner.limit
  if later.isEmpty then pure first else pure (.anyOf pos (first :: later))

def pattern (inner : Rules) : Parser Pattern := do
  let pos ← here
  let found ← orPattern inner
  if ← eatKeyword "as" then
    let target ← captureName
    pure (.capture pos (some found) (some target))
  else pure found

def patterns (inner : Rules) : Parser Pattern := do
  let pos ← here
  let first ← starPattern inner
  if ← nextIsOp "," then
    let later ← many (do op ","; starPattern inner) inner.limit
    let _ ← eatOp ","
    pure (.sequence pos (first :: later))
  else
    match first with
    | .star .. => failure
    | _ => pure first

end TypingAudit.Source.Grammar
