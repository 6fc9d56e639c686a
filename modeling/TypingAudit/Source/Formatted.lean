import TypingAudit.Source.Escape
import TypingAudit.Source.Position
import TypingAudit.Ast.Expr

/-!
The inside of a formatted string literal, cut into literal text and replacement fields. The expression of
a field is kept as text with its place; a format after the colon may hold fields of its own, and those may
have a format without further fields.
-/

namespace TypingAudit.Source

open Text (CodePoints)
open Ast (Conversion)

inductive Piece where
  | literal (text : CodePoints)
  /-- `bracePos` is the place of the opening brace; `echo` is the source text that a `=` asks to repeat
  in front of the value. -/
  | field (expression : List Char) (bracePos : Position) (echo : Option CodePoints)
      (conversion : Option Conversion) (format : Option (List Piece))

namespace Formatted

inductive Stop where
  | atEnd
  /-- A doubled brace, of which one belongs to the text. -/
  | doubled
  | atBrace
deriving DecidableEq

/-- A run of literal text, in reverse, with the reason it ends and what follows. Inside a format braces
are never doubled. A named escape holds braces of its own, which `inName` passes over. -/
def literalRun (raw nested : Bool) :
    Bool → List Char → List Char → Option (List Char × Stop × List Char)
  | _, [], acc => some (acc, .atEnd, [])
  | true, c :: rest, acc => literalRun raw nested (c != '\x7d') rest (c :: acc)
  | false, c :: rest, acc =>
    let brace (c : Char) (after acc : List Char) : Option (List Char × Stop × List Char) :=
      if nested then some (acc, .atBrace, c :: after)
      else
        match after with
        | next :: tail =>
          if next == c then some (c :: acc, .doubled, tail)
          else if c == '\x7d' then none
          else some (acc, .atBrace, c :: after)
        | [] => if c == '\x7d' then none else some (acc, .atBrace, [c])
    if c == '\\' && !raw then
      match rest with
      | 'N' :: '\x7b' :: tail => literalRun raw nested true tail ('\x7b' :: 'N' :: '\\' :: acc)
      | next :: tail =>
        if next == '\x7b' || next == '\x7d' then brace next tail ('\\' :: acc)
        else literalRun raw nested false tail (next :: '\\' :: acc)
      | [] => literalRun raw nested false [] ('\\' :: acc)
    else if c == '\x7b' || c == '\x7d' then brace c rest acc
    else literalRun raw nested false rest (c :: acc)

def isOpening (c : Char) : Bool := c == '(' || c == '[' || c == '\x7b'

def matches_ (opening closing : Char) : Bool :=
  (opening == '(' && closing == ')') || (opening == '[' && closing == ']') ||
    (opening == '\x7b' && closing == '\x7d')

inductive Quoting where
  | outside
  | inside (quote : Char) (tripled : Bool)

/-- The expression of a field, in reverse, up to the character that ends it: `!`, `:`, `=` or the closing
brace, outside brackets and strings. Backslashes and comments are refused. `skip` characters belong to a
longer symbol already seen. -/
def expressionRun : Nat → Quoting → List Char → List Char → List Char →
    Option (List Char × List Char)
  | _, _, _, [], _ => none
  | skip + 1, q, open_, c :: rest, acc => expressionRun skip q open_ rest (c :: acc)
  | 0, .inside quote tripled, open_, c :: rest, acc =>
    if c == '\\' then none
    else if c == quote then
      if tripled then
        match rest with
        | c₂ :: c₃ :: _ =>
          if c₂ == quote && c₃ == quote then expressionRun 2 .outside open_ rest (c :: acc)
          else expressionRun 0 (.inside quote true) open_ rest (c :: acc)
        | _ => expressionRun 0 (.inside quote true) open_ rest (c :: acc)
      else expressionRun 0 .outside open_ rest (c :: acc)
    else expressionRun 0 (.inside quote tripled) open_ rest (c :: acc)
  | 0, .outside, open_, c :: rest, acc =>
    if c == '\\' then none
    else if c == '\'' || c == '"' then
      match rest with
      | c₂ :: c₃ :: _ =>
        if c₂ == c && c₃ == c then expressionRun 2 (.inside c true) open_ rest (c :: acc)
        else expressionRun 0 (.inside c false) open_ rest (c :: acc)
      | _ => expressionRun 0 (.inside c false) open_ rest (c :: acc)
    else if isOpening c then expressionRun 0 .outside (c :: open_) rest (c :: acc)
    else if c == '#' then none
    else if open_.isEmpty &&
        (c == '!' || c == ':' || c == '\x7d' || c == '=' || c == '<' || c == '>') then
      match rest with
      | '=' :: _ =>
        if c == '!' || c == '=' || c == '<' || c == '>' then
          expressionRun 1 .outside open_ rest (c :: acc)
        else some (acc, c :: rest)
      | _ =>
        if c == '<' || c == '>' then expressionRun 0 .outside open_ rest (c :: acc)
        else some (acc, c :: rest)
    else if c == ')' || c == ']' || c == '\x7d' then
      match open_ with
      | top :: under =>
        if matches_ top c then expressionRun 0 .outside under rest (c :: acc) else none
      | [] => none
    else expressionRun 0 .outside open_ rest (c :: acc)

def isInnerBlank (c : Char) : Bool := c == ' ' || c == '\t' || c == '\n' || c == '\x0c'

def isEchoBlank (c : Char) : Bool := isInnerBlank c || c == '\x0b' || c == '\r'

def conversion? : Char → Option Conversion
  | 's' => some .str
  | 'r' => some .repr
  | 'a' => some .ascii
  | _ => none

structure Head where
  expression : List Char
  echo : Option CodePoints
  conversion : Option Conversion
  /-- Everything passed since the opening brace. -/
  passed : List Char
  rest : List Char

def head (chars : List Char) : Option Head := do
  let (reversed, rest) ← expressionRun 0 .outside [] chars []
  let expression := reversed.reverse
  if expression.all isInnerBlank then none
  let (echo, passed, rest) :=
    match rest with
    | '=' :: tail =>
      let blanks := tail.takeWhile isEchoBlank
      let shown := expression ++ '=' :: blanks
      (some (CodePoints.ofChars shown), shown, tail.dropWhile isEchoBlank)
    | _ => (none, expression, rest)
  match rest with
  | '!' :: mark :: tail =>
    let conversion ← conversion? mark
    some ⟨expression, echo, some conversion, passed ++ ['!', mark], tail⟩
  | '!' :: [] => none
  | _ => some ⟨expression, echo, none, passed, rest⟩

/-- Without a format or a conversion of its own, an echoed value is shown as its representation. -/
def effective (h : Head) (hasFormat : Bool) : Option Conversion :=
  if h.echo.isSome && !hasFormat && h.conversion.isNone then some .repr else h.conversion

def decodeRun (named : List Char → Option Nat) (raw : Bool) (run : List Char) : Option CodePoints :=
  if raw then some (.ofChars run) else Escape.decodeText named run

/-- Cuts a text into pieces. `depth` counts the formats around it; `fuel` bounds the pieces. The rest
is empty at depth zero and starts with a closing brace in a format. -/
def split (named : List Char → Option Nat) (raw : Bool) :
    Nat → Nat → Position → List Char → Option (List Piece × Position × List Char)
  | 0, _, _, _ => none
  | fuel + 1, depth, pos, chars => do
    let (reversed, stop, rest) ← literalRun raw (0 < depth) false chars []
    let run := reversed.reverse
    let text ← decodeRun named raw run
    let front := if run.isEmpty then [] else [Piece.literal text]
    let pos := pos.advanceBy run
    match stop, rest with
    | .atEnd, _ => if depth = 0 then some (front, pos, []) else none
    | .doubled, _ => do
      let (later, pos, rest) ← split named raw fuel depth (pos.advance '\x7b') rest
      some (front ++ later, pos, rest)
    | .atBrace, '\x7b' :: inner => do
      if 2 ≤ depth then none
      let h ← head inner
      let afterHead := (pos.advance '\x7b').advanceBy h.passed
      let (format, afterFormat, rest) ←
        match h.rest with
        | ':' :: spec =>
          match spec with
          | [] => none
          | _ => do
            let (pieces, after, rest) ← split named raw fuel (depth + 1) (afterHead.advance ':') spec
            some (some pieces, after, rest)
        | rest => some (none, afterHead, rest)
      match rest with
      | '\x7d' :: tail => do
        let (later, last, rest) ← split named raw fuel depth (afterFormat.advance '\x7d') tail
        some (front ++ Piece.field h.expression pos h.echo (effective h format.isSome) format :: later,
          last, rest)
      | _ => none
    | .atBrace, rest => some (front, pos, rest)

end Formatted

def pieces (named : List Char → Option Nat) (raw : Bool) (pos : Position) (body : List Char) :
    Option (List Piece) :=
  (Formatted.split named raw (body.length + 2) 0 pos body).map (·.1)

end TypingAudit.Source
