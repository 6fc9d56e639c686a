import TypingAudit.Source.Grammar.Params
import TypingAudit.Source.Grammar.Strings
import TypingAudit.Source.Grammar.Target

/-!
Names, literals, displays and comprehensions, calls, attributes and subscripts.
-/

namespace TypingAudit.Source.Grammar

open Ast

def nextIsBinding : Parser Bool := fun tokens =>
  match tokens with
  | ⟨.name _, _⟩ :: ⟨.op ":=", _⟩ :: _ => some (true, tokens)
  | _ => some (false, tokens)

def nextIsKeywordArgument : Parser Bool := fun tokens =>
  match tokens with
  | ⟨.name _, _⟩ :: ⟨.op "=", _⟩ :: _ => some (true, tokens)
  | _ => some (false, tokens)

def nextIsFor : Parser Bool := nextIs fun l => l.isKeyword "for" || l.isKeyword "async"

def element (inner : Rules) : Parser Expr := do
  let pos ← here
  if ← eatOp "*" then
    let value ← inner.bitwiseOr
    pure (.starred pos value .load)
  else inner.named

def isStarred : Expr → Bool
  | .starred .. => true
  | _ => false

/-- Further elements after a first one, each behind a comma, up to the closing bracket; a comma may
stand before the bracket. -/
def moreElements {α : Type} (p : Parser α) (closing : String) (limit : Nat) : Parser (List α) := do
  let later ← many (do op ","; p) limit
  let _ ← eatOp ","
  op closing
  pure later

def loopTarget (inner : Rules) : Parser Expr := do
  let pos ← here
  if ← eatOp "*" then
    let value ← inner.primary
    orFail (toTarget .store (.starred pos value .load))
  else
    let value ← inner.primary
    orFail (toTarget .store value)

def loopTargets (inner : Rules) : Parser Expr := do
  let pos ← here
  let first ← loopTarget inner
  let later ← many (do op ","; loopTarget inner) inner.limit
  let comma ← eatOp ","
  if later.isEmpty && !comma then pure first
  else pure (.tuple pos (first :: later) .store)

def comprehension (inner : Rules) : Parser Comprehension := do
  let isAsync ← eatKeyword "async"
  keyword "for"
  let target ← loopTargets inner
  keyword "in"
  let iter ← inner.disjunction
  let ifs ← many (do keyword "if"; inner.disjunction) inner.limit
  pure ⟨target, iter, ifs, isAsync⟩

def comprehensions (inner : Rules) : Parser (List Comprehension) :=
  many1 (comprehension inner) inner.limit

def yieldExpr (inner : Rules) : Parser Expr := do
  let pos ← here
  keyword "yield"
  if ← eatKeyword "from" then
    let value ← inner.expression
    pure (.yieldFrom pos value)
  else
    let value ← optional inner.starExpressions
    pure (.yield pos value)

/-- After an opening parenthesis: a tuple, a generator, or one expression on its own. -/
def parenthesized (inner : Rules) (pos : Position) : Parser Expr := do
  if ← eatOp ")" then pure (.tuple pos [] .load)
  else if ← nextIsKeyword "yield" then
    let value ← yieldExpr inner
    op ")"
    pure value
  else
    let first ← element inner
    if ← nextIsOp "," then
      let later ← moreElements (element inner) ")" inner.limit
      pure (.tuple pos (first :: later) .load)
    else if isStarred first then failure
    else if ← nextIsFor then
      let generators ← comprehensions inner
      op ")"
      pure (.generator pos first generators)
    else
      op ")"
      pure first

def bracketed (inner : Rules) (pos : Position) : Parser Expr := do
  if ← eatOp "]" then pure (.list pos [] .load)
  else
    let first ← element inner
    if ← nextIsFor then
      if isStarred first then failure
      let generators ← comprehensions inner
      op "]"
      pure (.listComp pos first generators)
    else
      let later ← moreElements (element inner) "]" inner.limit
      pure (.list pos (first :: later) .load)

def dictEntry (inner : Rules) : Parser (Option Expr × Expr) := do
  if ← eatOp "**" then
    let value ← inner.bitwiseOr
    pure (none, value)
  else
    let key ← inner.expression
    op ":"
    let value ← inner.expression
    pure (some key, value)

def dictOf (pos : Position) (entries : List (Option Expr × Expr)) : Expr :=
  .dict pos (entries.map (·.1)) (entries.map (·.2))

def braced (inner : Rules) (pos : Position) : Parser Expr := do
  if ← eatOp "\x7d" then pure (.dict pos [] [])
  else if ← nextIsOp "**" then
    let first ← dictEntry inner
    let later ← moreElements (dictEntry inner) "\x7d" inner.limit
    pure (dictOf pos (first :: later))
  else
    let binding ← nextIsBinding
    let first ← element inner
    if ← nextIsOp ":" then
      if binding || isStarred first then failure
      op ":"
      let value ← inner.expression
      if ← nextIsFor then
        let generators ← comprehensions inner
        op "\x7d"
        pure (.dictComp pos first value generators)
      else
        let later ← moreElements (dictEntry inner) "\x7d" inner.limit
        pure (dictOf pos ((some first, value) :: later))
    else if ← nextIsFor then
      if isStarred first then failure
      let generators ← comprehensions inner
      op "\x7d"
      pure (.setComp pos first generators)
    else
      let later ← moreElements (element inner) "\x7d" inner.limit
      pure (.set pos (first :: later))

def atom (inner : Rules) : Parser Expr := do
  let pos ← here
  match ← peek with
  | some (.string _) => strings inner
  | some (.name id) =>
    skip
    pure (.name pos id .load)
  | some (.number value) =>
    skip
    pure (.constant pos value)
  | some (.keyword word) =>
    skip
    match word with
    | "None" => pure (.constant pos .none)
    | "True" => pure (.constant pos (.bool true))
    | "False" => pure (.constant pos (.bool false))
    | _ => failure
  | some (.op symbol) =>
    skip
    match symbol with
    | "(" => parenthesized inner pos
    | "[" => bracketed inner pos
    | "\x7b" => braced inner pos
    | "..." => pure (.constant pos .ellipsis)
    | _ => failure
  | _ => failure

/-- Which arguments a call may still take: positional ones end at the first keyword, and starred ones at
the first unpacked mapping. -/
inductive ArgPhase where
  | positional
  | keywords
  | mappings
deriving DecidableEq

structure ArgsSoFar where
  phase : ArgPhase
  /-- In reverse. -/
  args : List Expr
  keywords : List Keyword

def argEntry (inner : Rules) (s : ArgsSoFar) : Parser ArgsSoFar := do
  let pos ← here
  if ← eatOp "**" then
    let value ← inner.expression
    pure { s with phase := .mappings, keywords := ⟨pos, none, value⟩ :: s.keywords }
  else if ← eatOp "*" then
    if s.phase = .mappings then failure
    let value ← inner.expression
    pure { s with args := .starred pos value .load :: s.args }
  else if ← nextIsKeywordArgument then
    let id ← name
    op "="
    let value ← inner.expression
    let phase := if s.phase = .mappings then ArgPhase.mappings else .keywords
    pure { s with phase := phase, keywords := ⟨pos, some id, value⟩ :: s.keywords }
  else
    if s.phase ≠ .positional then failure
    let value ← inner.named
    if ← nextIsOp "=" then failure
    pure { s with args := value :: s.args }

def soleArgument? (s : ArgsSoFar) : Option Expr :=
  match s.args, s.keywords with
  | [value], [] => if isStarred value then none else some value
  | _, _ => none

/-- The arguments of a call or the bases of a class, after the opening parenthesis, with the closing
one. In a call a generator that is the only argument needs no parentheses of its own; it is placed at
`generatorPos`. -/
def arguments (inner : Rules) (generatorPos : Option Position) :
    Parser (List Expr × List Keyword) := do
  if ← eatOp ")" then pure ([], [])
  else
    let first ← argEntry inner ⟨.positional, [], []⟩
    if ← nextIsFor then
      let pos ← orFail generatorPos
      let elt ← orFail (soleArgument? first)
      let generators ← comprehensions inner
      op ")"
      pure ([.generator pos elt generators], [])
    else
      let s ← extendWhile (fun s => do op ","; argEntry inner s) inner.limit first
      let _ ← eatOp ","
      op ")"
      pure (s.args.reverse, s.keywords.reverse)

def sliceOrIndex (inner : Rules) : Parser Expr := do
  let pos ← here
  let bound : Parser (Option Expr) := optional inner.expression
  let rest (lower : Option Expr) : Parser Expr := do
    op ":"
    let upper ← bound
    let step ← if ← eatOp ":" then bound else pure none
    pure (.slice pos lower upper step)
  if ← nextIsOp ":" then rest none
  else if ← nextIsBinding then inner.named
  else
    let value ← inner.named
    if ← nextIsOp ":" then rest (some value) else pure value

def subscriptPart (inner : Rules) : Parser Expr := do
  let pos ← here
  if ← eatOp "*" then
    let value ← inner.expression
    pure (.starred pos value .load)
  else sliceOrIndex inner

/-- Everything between square brackets after a value. Several parts, a starred part, or a comma make a
tuple. -/
def subscriptParts (inner : Rules) : Parser Expr := do
  let pos ← here
  let first ← subscriptPart inner
  let later ← many (do op ","; subscriptPart inner) inner.limit
  let comma ← eatOp ","
  if later.isEmpty && !comma && !isStarred first then pure first
  else pure (.tuple pos (first :: later) .load)

def trailer (inner : Rules) (pos : Position) (value : Expr) : Parser Expr := do
  match ← peek with
  | some (.op ".") =>
    skip
    let attr ← name
    pure (.attribute pos value attr .load)
  | some (.op "(") =>
    let parenPos ← here
    skip
    let (args, keywords) ← arguments inner (some parenPos)
    pure (.call pos value args keywords)
  | some (.op "[") =>
    skip
    let index ← subscriptParts inner
    op "]"
    pure (.subscript pos value index .load)
  | _ => failure

def primary (inner : Rules) : Parser Expr := do
  let pos ← here
  let value ← atom inner
  extendWhile (trailer inner pos) inner.limit value

end TypingAudit.Source.Grammar
