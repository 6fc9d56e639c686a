import TypingAudit.Source.Position
import TypingAudit.Ast.Constant

/-!
Tokens of the audited language. Layout is made explicit: the end of a logical line, and every step of the
indentation in or out, are tokens of their own.
-/

namespace TypingAudit.Source

open Ast (Constant)

/-- A string literal as written, without its quotes. -/
structure StringLiteral where
  isBytes : Bool
  isRaw : Bool
  isFormatted : Bool
  /-- A small `u` in front. -/
  marked : Bool
  body : List Char
  bodyPos : Position
deriving Repr

inductive Lexeme where
  | name (text : String)
  | keyword (text : String)
  | number (value : Constant)
  | string (literal : StringLiteral)
  | op (symbol : String)
  | newline
  | indent
  | dedent
  | endMarker
deriving Repr

namespace Lexeme

def isOp (symbol : String) : Lexeme → Bool
  | .op s => s == symbol
  | _ => false

def isKeyword (text : String) : Lexeme → Bool
  | .keyword s => s == text
  | _ => false

end Lexeme

structure Token where
  lexeme : Lexeme
  pos : Position
deriving Repr

def keywords : List String :=
  ["False", "None", "True", "and", "as", "assert", "async", "await", "break", "class", "continue",
    "def", "del", "elif", "else", "except", "finally", "for", "from", "global", "if", "import", "in",
    "is", "lambda", "nonlocal", "not", "or", "pass", "raise", "return", "try", "while", "with", "yield"]

end TypingAudit.Source
