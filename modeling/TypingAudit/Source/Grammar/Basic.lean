import TypingAudit.Source.Token
import TypingAudit.Ast.Stmt

/-!
Readers of token sequences, and the record of rules that the grammar is tied together with. A rule reads
nested constructs through the record it is given, which knows one level of nesting less; so the grammar as
a whole is a recursion on the depth of nesting.
-/

namespace TypingAudit.Source.Grammar

open Ast

/-- Reads a construct off the front of a token sequence, or refuses it. -/
abbrev Parser (α : Type) := StateT (List Token) Option α

/-- The rules through which nested constructs are read. -/
structure Rules where
  /-- Bounds the length of every repetition. -/
  limit : Nat
  expression : Parser Expr
  named : Parser Expr
  starExpressions : Parser Expr
  disjunction : Parser Expr
  inversion : Parser Expr
  bitwiseOr : Parser Expr
  factor : Parser Expr
  primary : Parser Expr
  pattern : Parser Pattern
  block : Parser (List Stmt)
  orElse : Parser (List Stmt)

def Rules.none (limit : Nat) : Rules :=
  ⟨limit, failure, failure, failure, failure, failure, failure, failure, failure, failure, failure,
    failure⟩

def peek : Parser (Option Lexeme) := fun tokens => some (tokens.head?.map Token.lexeme, tokens)

def here : Parser Position
  | [] => none
  | token :: tokens => some (token.pos, token :: tokens)

def skip : Parser Unit
  | [] => none
  | _ :: tokens => some ((), tokens)

def nextIs (p : Lexeme → Bool) : Parser Bool := fun tokens =>
  match tokens with
  | token :: _ => some (p token.lexeme, tokens)
  | [] => some (false, tokens)

def nextIsOp (symbol : String) : Parser Bool := nextIs (Lexeme.isOp symbol)

def nextIsKeyword (text : String) : Parser Bool := nextIs (Lexeme.isKeyword text)

def eat (p : Lexeme → Bool) : Parser Bool := fun tokens =>
  match tokens with
  | token :: rest => if p token.lexeme then some (true, rest) else some (false, tokens)
  | [] => some (false, tokens)

def eatOp (symbol : String) : Parser Bool := eat (Lexeme.isOp symbol)

def eatKeyword (text : String) : Parser Bool := eat (Lexeme.isKeyword text)

def require (p : Lexeme → Bool) : Parser Unit := do
  if ← eat p then pure () else failure

def op (symbol : String) : Parser Unit := require (Lexeme.isOp symbol)

def keyword (text : String) : Parser Unit := require (Lexeme.isKeyword text)

def name : Parser String
  | ⟨.name text, _⟩ :: tokens => some (text, tokens)
  | _ => none

def softKeyword (text : String) : Parser Unit
  | ⟨.name found, _⟩ :: tokens => if found == text then some ((), tokens) else none
  | _ => none

def newline : Parser Unit := require fun | .newline => true | _ => false

def indent : Parser Unit := require fun | .indent => true | _ => false

def dedent : Parser Unit := require fun | .dedent => true | _ => false

def endMarker : Parser Unit := require fun | .endMarker => true | _ => false

/-- Reads `p` if it can be read here. -/
def optional {α : Type} (p : Parser α) : Parser (Option α) := fun tokens =>
  match p tokens with
  | some (a, rest) => some (some a, rest)
  | none => some (none, tokens)

/-- Reads `p` until it refuses, at most `limit` times. -/
def many {α : Type} (p : Parser α) : Nat → Parser (List α)
  | 0 => failure
  | limit + 1 => fun tokens =>
    match p tokens with
    | none => some ([], tokens)
    | some (a, rest) => (many p limit rest).map fun (as, rest) => (a :: as, rest)

def many1 {α : Type} (p : Parser α) (limit : Nat) : Parser (List α) := do
  let first ← p
  let later ← many p limit
  pure (first :: later)

/-- Reads `p`, `p`, … with commas between; a comma that no further `p` follows is left. -/
def commaSeparated {α : Type} (p : Parser α) (limit : Nat) : Parser (List α) := do
  let first ← p
  let later ← many (do op ","; p) limit
  pure (first :: later)

def extendWhile {α : Type} (step : α → Parser α) : Nat → α → Parser α
  | 0, _ => failure
  | limit + 1, a => fun tokens =>
    match step a tokens with
    | none => some (a, tokens)
    | some (b, rest) => extendWhile step limit b rest

end TypingAudit.Source.Grammar
