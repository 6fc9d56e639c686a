import TypingAudit.Source.Formatted
import TypingAudit.Source.Grammar.Basic
import TypingAudit.Source.Lexer
import TypingAudit.Text.Names
import TypingAudit.Text.Normal

/-!
Adjacent string literals form one constant, or one joined string when any of them is formatted. Text and
bytes do not mix. Every part of a joined string is placed at the first literal.
-/

namespace TypingAudit.Source.Grammar

open Ast
open Text (CodePoints)

inductive Part where
  | text (text : CodePoints)
  | value (expr : Expr)

/-- Merges adjacent texts and drops empty ones. A text in front of a value becomes a constant by `mid`,
the last one by `last`. -/
def mergeParts (mid last : CodePoints → Expr) : CodePoints → List Part → List Expr
  | pending, [] => if pending.isEmpty then [] else [last pending]
  | pending, .text t :: parts => mergeParts mid last (pending ++ t) parts
  | pending, .value e :: parts =>
    if pending.isEmpty then e :: mergeParts mid last pending parts
    else mid pending :: e :: mergeParts mid last ⟨[]⟩ parts

/-- Where the parts of a joined string are placed. -/
structure Placing where
  /-- The first literal's place, and whether it bears the `u` mark. -/
  first : Position
  marked : Bool
  /-- The place of the literal that is being read. -/
  current : Position

def Placing.constant (placing : Placing) (text : CodePoints) : Expr :=
  .constant placing.first (.str text placing.marked)

/-- The expression of a field, read as if it stood in parentheses. -/
def fieldValue (inner : Rules) (expression : List Char) (bracePos : Position) : Option Expr := do
  let tokens ← tokensAt Text.normalizeName bracePos ('(' :: (expression ++ [')', '\n']))
  let (value, _) ← inner.starExpressions tokens
  some value

mutual

def pieceParts (inner : Rules) (placing : Placing) : Piece → Option (List Part)
  | .literal text => some [.text text]
  | .field expression bracePos echo conversion format => do
    let value ← fieldValue inner expression bracePos
    let spec ← formatSpec inner placing format
    let field := Part.value (.formatted placing.first value conversion spec)
    match echo with
    | some text => some [.text text, field]
    | none => some [field]

def formatSpec (inner : Rules) (placing : Placing) : Option (List Piece) → Option (Option Expr)
  | none => some none
  | some pieces => do
    let parts ← piecesParts inner placing pieces
    let last (text : CodePoints) : Expr := .constant placing.current (.str text false)
    some (some (.joined placing.current (mergeParts placing.constant last ⟨[]⟩ parts)))

def piecesParts (inner : Rules) (placing : Placing) : List Piece → Option (List Part)
  | [] => some []
  | piece :: pieces => do
    let front ← pieceParts inner placing piece
    let later ← piecesParts inner placing pieces
    some (front ++ later)

end

def literalParts (inner : Rules) (placing : Placing) (literal : StringLiteral) :
    Option (List Part) := do
  if literal.isBytes then none
  else if literal.isFormatted then
    let found ← pieces Text.charNamed literal.isRaw literal.bodyPos literal.body
    piecesParts inner placing found
  else
    let text ← Formatted.decodeRun Text.charNamed literal.isRaw literal.body
    some [.text text]

def literalBytes (literal : StringLiteral) : Option (List UInt8) :=
  if literal.isBytes && literal.body.all (fun c => c.toNat < 128) then
    if literal.isRaw then some (literal.body.map fun c => c.toNat.toUInt8)
    else Escape.decodeBytes literal.body
  else none

def stringToken : Parser (Position × StringLiteral)
  | ⟨.string literal, pos⟩ :: tokens => some ((pos, literal), tokens)
  | _ => none

def joinLiterals (inner : Rules) (first : Position) (literals : List (Position × StringLiteral)) :
    Option Expr := do
  let head ← literals.head?
  if head.2.isBytes then
    let data ← literals.mapM fun (_, literal) => literalBytes literal
    some (.constant first (.bytes data.flatten))
  else
    let parts ← literals.mapM fun (pos, literal) =>
      literalParts inner ⟨first, head.2.marked, pos⟩ literal
    let constant := Placing.constant ⟨first, head.2.marked, first⟩
    let merged := mergeParts constant constant ⟨[]⟩ parts.flatten
    if literals.any (·.2.isFormatted) then some (.joined first merged)
    else
      match merged with
      | [value] => some value
      | _ => some (constant ⟨[]⟩)

def strings (inner : Rules) : Parser Expr := do
  let first ← here
  let literals ← many1 stringToken inner.limit
  match joinLiterals inner first literals with
  | some value => pure value
  | none => failure

end TypingAudit.Source.Grammar
