import TypingAudit.Source.Grammar.Statement

/-!
The grammar of the audited language, tied together, and the reading of whole modules and of single
expressions. Depth and length of what can be read are bounded by the length of the text, which no nesting
and no repetition can exceed.
-/

namespace TypingAudit.Source

open Ast

namespace Grammar

/-- The rules for one more level of nesting. -/
def Rules.extend (inner : Rules) : Rules where
  limit := inner.limit
  expression := Grammar.expression inner
  named := namedExpression inner
  starExpressions := Grammar.starExpressions inner
  disjunction := Grammar.disjunction inner
  inversion := Grammar.inversion inner
  bitwiseOr := Grammar.bitwiseOr inner
  factor := Grammar.factor inner
  primary := Grammar.primary inner
  pattern := Grammar.pattern inner
  block := Grammar.block inner
  orElse := Grammar.orElse inner

def Rules.ofDepth (limit depth : Nat) : Rules := depth.repeat Rules.extend (.none limit)

def wholeModule (rules : Rules) : Parser Module := do
  let body ← statements rules
  endMarker
  pure ⟨body⟩

def wholeExpression (rules : Rules) : Parser Expr := do
  let value ← expressions rules
  let _ ← many newline rules.limit
  endMarker
  pure value

end Grammar

open Grammar

/-- Whether a token holds a byte that could not be decoded. -/
def Token.holds (places : List Position) (token : Token) : Bool :=
  match token.lexeme with
  | .string literal =>
    let last := literal.bodyPos.advanceBy literal.body
    places.any fun p =>
      (token.pos.line < p.line || (token.pos.line == p.line && token.pos.offset ≤ p.offset)) &&
        (p.line < last.line || (p.line == last.line && p.offset < last.offset))
  | _ => false

def readWith {α : Type} (rule : Rules → Parser α) (text : Decoded) : Option α := do
  let tokens ← tokensAt Text.normalizeName .start text.chars
  if tokens.any (Token.holds text.undecodable) then none
  let limit := text.chars.length + 3
  let (found, _) ← rule (.ofDepth limit limit) tokens
  some found

def parseDecoded (text : Decoded) : Option Module :=
  readWith wholeModule { text with chars := closeLastLine text.chars }

def parseBytes (bytes : List UInt8) : Option Module := (decode bytes).bind parseDecoded

def parseModule (text : String) : Option Module :=
  parseDecoded (.ofChars (uniformLines '\n' '\r' text.toList))

def parseExpr (text : String) : Option Expr :=
  readWith wholeExpression (.ofChars (uniformLines '\n' '\r' text.toList))

end TypingAudit.Source
