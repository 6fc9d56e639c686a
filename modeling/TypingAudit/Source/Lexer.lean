import TypingAudit.Source.Encoding
import TypingAudit.Source.Number
import TypingAudit.Source.Token

/-!
From text to tokens. Indentation is measured twice, once with tabs to multiples of eight and once with a
tab as one column; a line on which the two measures disagree about the nesting is refused. Between
brackets line ends and indentation mean nothing.
-/

namespace TypingAudit.Source

open Text

namespace Lexer

structure Cursor where
  chars : List Char
  pos : Position

namespace Cursor

def past (c : Cursor) (taken rest : List Char) : Cursor := ⟨rest, c.pos.advanceBy taken⟩

def spanWhile (c : Cursor) (p : Char → Bool) : List Char × Cursor :=
  let taken := c.chars.takeWhile p
  (taken, c.past taken (c.chars.dropWhile p))

end Cursor

structure Indent where
  wide : Nat
  narrow : Nat

namespace Indent

def zero : Indent := ⟨0, 0⟩

def step (i : Indent) : Char → Indent
  | ' ' => ⟨i.wide + 1, i.narrow + 1⟩
  | '\t' => ⟨(i.wide / 8 + 1) * 8, i.narrow + 1⟩
  | _ => zero

end Indent

/-- Measures a line's indentation. A backslash joins the next line on; the indentation in front of the
first such backslash that has any is the line's. -/
def measure : List Char → Position → Indent → Nat → Option (Indent × Cursor)
  | [], pos, indent, joined => some (if joined = 0 then indent else ⟨joined, joined⟩, ⟨[], pos⟩)
  | c :: rest, pos, indent, joined =>
    if c == ' ' || c == '\t' || c == '\x0c' then
      measure rest (pos.advance c) (indent.step c) joined
    else if c == '\\' then
      match rest with
      | '\n' :: next :: tail =>
        measure (next :: tail) ((pos.advance c).advance '\n') indent
          (if joined = 0 then indent.wide else joined)
      | _ => none
    else some (if joined = 0 then indent else ⟨joined, joined⟩, ⟨c :: rest, pos⟩)

structure State where
  /-- Open indentations, innermost first; the outermost is zero and not listed. -/
  indents : List Indent
  /-- Open brackets, innermost first. -/
  brackets : List Char

def maxIndents : Nat := 100

def maxBrackets : Nat := 200

/-- Closes the indentations wider than `line`. The number closed comes with those left. -/
def closeIndents (line : Indent) : List Indent → Nat → Nat × List Indent
  | [], closed => (closed, [])
  | top :: rest, closed =>
    if line.wide < top.wide then closeIndents line rest (closed + 1) else (closed, top :: rest)

def layout (line : Indent) (pos : Position) (indents : List Indent) :
    Option (List Token × List Indent) :=
  let top := indents.headD .zero
  if line.wide = top.wide then
    if line.narrow = top.narrow then some ([], indents) else none
  else if top.wide < line.wide then
    if maxIndents ≤ indents.length + 1 then none
    else if line.narrow ≤ top.narrow then none
    else some ([⟨.indent, pos⟩], line :: indents)
  else
    let (closed, left) := closeIndents line indents 0
    let under := left.headD .zero
    if line.wide = under.wide ∧ line.narrow = under.narrow then
      some (List.replicate closed ⟨.dedent, pos⟩, left)
    else none

structure Marks where
  isBytes : Bool
  isRaw : Bool
  isFormatted : Bool
  isUnicode : Bool

namespace Marks

def none : Marks := ⟨false, false, false, false⟩

/-- Adds a mark; each may stand once, and only some stand together. -/
def add (m : Marks) (c : Char) : Option Marks :=
  let l := c.toLower
  if l == 'b' && !(m.isBytes || m.isUnicode || m.isFormatted) then some { m with isBytes := true }
  else if l == 'u' && !(m.isBytes || m.isUnicode || m.isRaw || m.isFormatted) then
    some { m with isUnicode := true }
  else if l == 'r' && !(m.isRaw || m.isUnicode) then some { m with isRaw := true }
  else if l == 'f' && !(m.isFormatted || m.isBytes || m.isUnicode) then
    some { m with isFormatted := true }
  else Option.none

def read : List Char → Marks → Option (Marks × List Char)
  | [], _ => Option.none
  | c :: rest, m =>
    if c == '"' || c == '\'' then some (m, c :: rest)
    else (m.add c).bind (read rest)

end Marks

/-- The body of a literal up to its closing quote, on one line. The body comes back in reverse. -/
def shortBody (quote : Char) : List Char → List Char → Option (List Char × List Char)
  | [], _ => none
  | c :: rest, acc =>
    if c == quote then some (acc, rest)
    else if c == '\n' then none
    else if c == '\\' then
      match rest with
      | escaped :: tail => shortBody quote tail (escaped :: c :: acc)
      | [] => none
    else shortBody quote rest (c :: acc)

def longBody (quote : Char) : List Char → List Char → Option (List Char × List Char)
  | [], _ => none
  | c :: rest, acc =>
    if c == '\\' then
      match rest with
      | escaped :: tail => longBody quote tail (escaped :: c :: acc)
      | [] => none
    else if c == quote then
      match rest with
      | c₂ :: c₃ :: tail =>
        if c₂ == quote && c₃ == quote then some (acc, tail) else longBody quote rest (c :: acc)
      | _ => none
    else longBody quote rest (c :: acc)

/-- Reads a string literal whose marks end at its opening quote. -/
def scanString (marks : Marks) (small : Bool) (chars : List Char) (pos : Position) :
    Option (StringLiteral × Cursor) :=
  match chars with
  | quote :: rest =>
    let long := match rest with
      | c₂ :: c₃ :: _ => c₂ == quote && c₃ == quote
      | _ => false
    let opened := if long then [quote, quote, quote] else [quote]
    let bodyPos := pos.advanceBy opened
    let found := if long then longBody quote (rest.drop 2) [] else shortBody quote rest []
    found.map fun (reversed, after) =>
      let body := reversed.reverse
      (⟨marks.isBytes, marks.isRaw, marks.isFormatted, marks.isUnicode && small, body, bodyPos⟩,
        ⟨after, (bodyPos.advanceBy body).advanceBy opened⟩)
  | [] => none

def operators : List String :=
  ["**=", "//=", "<<=", ">>=", "...",
    "!=", "%=", "&=", "**", "*=", "+=", "-=", "->", "//", "/=", ":=", "<<", "<=", "<>", "==", ">=",
    ">>", "@=", "^=", "|=",
    "%", "&", "(", ")", "*", "+", ",", "-", ".", "/", ":", ";", "<", "=", ">", "@", "[", "]", "^",
    "\x7b", "|", "\x7d", "~"]

def operatorAt (chars : List Char) : Option String :=
  operators.find? fun symbol => symbol.toList.isPrefixOf chars

def closing : Char → Option Char
  | '(' => some ')'
  | '[' => some ']'
  | '\x7b' => some '\x7d'
  | _ => none

def nest (brackets : List Char) (symbol : String) : Option (List Char) :=
  match symbol.toList with
  | [c] =>
    if (closing c).isSome then
      if maxBrackets ≤ brackets.length then none else some (c :: brackets)
    else if c == ')' || c == ']' || c == '\x7d' then
      match brackets with
      | top :: rest => if closing top = some c then some rest else none
      | [] => none
    else some brackets
  | _ => some brackets

/-- Characters that begin a name, or would if the name is allowed. -/
def opensName (c : Char) : Bool := isAsciiLetter c || c == '_' || 128 ≤ c.toNat

def word (normalize : List Char → List Char) (chars : List Char) : Option Lexeme :=
  let text := String.ofList chars
  if keywords.contains text then some (.keyword text)
  else
    match chars with
    | first :: rest =>
      if isNameStart first && rest.all isNameContinue then
        some (.name (String.ofList (normalize chars)))
      else none
    | [] => none

def scanToken (normalize : List Char → List Char) (brackets : List Char) (c : Cursor) :
    Option (Lexeme × List Char × Cursor) :=
  match c.chars with
  | [] => none
  | first :: rest =>
    if first == '"' || first == '\'' then
      (scanString .none false c.chars c.pos).map fun (literal, after) =>
        (.string literal, brackets, after)
    else if opensName first then
      match Marks.read (c.chars.take 3) .none with
      | some (marks, _) =>
        let (front, quoted) := c.spanWhile fun x => x != '"' && x != '\''
        (scanString marks (front == ['u']) quoted.chars quoted.pos).map fun (literal, after) =>
          (.string literal, brackets, after)
      | none =>
        let (taken, after) := c.spanWhile Number.continuesName
        (word normalize taken).map fun lexeme => (lexeme, brackets, after)
    else if isAsciiDigit first || (first == '.' && (rest.head?.map isAsciiDigit).getD false) then
      (Number.scan c.chars).map fun (value, after) =>
        (.number value, brackets, c.past (c.chars.take (c.chars.length - after.length)) after)
    else do
      let symbol ← operatorAt c.chars
      let nested ← nest brackets symbol
      some (.op symbol, nested, c.past symbol.toList (c.chars.drop symbol.length))

/-- Scans what is left. `atStart` tells whether a line starts here; each step passes a character, or
reaches the end. The tokens come back in reverse. -/
def scanFrom (normalize : List Char → List Char) :
    Nat → State → Bool → Cursor → List Token → Option (List Token)
  | 0, _, _, _, _ => none
  | fuel + 1, state, true, cursor, acc => do
    if state.brackets.isEmpty then
      let (line, after) ← measure cursor.chars cursor.pos .zero 0
      match after.chars with
      | '\n' :: rest =>
        scanFrom normalize fuel state true ⟨rest, after.pos.advance '\n'⟩ acc
      | '#' :: _ =>
        let (_, end_) := after.spanWhile (· != '\n')
        match end_.chars with
        | '\n' :: rest =>
          scanFrom normalize fuel state true ⟨rest, end_.pos.advance '\n'⟩ acc
        | _ => scanFrom normalize fuel state false end_ acc
      | _ =>
        let (tokens, indents) ← layout line after.pos state.indents
        scanFrom normalize fuel { state with indents := indents } false after (tokens ++ acc)
    else scanFrom normalize fuel state false cursor acc
  | fuel + 1, state, false, cursor, acc => do
    let (_, here) := cursor.spanWhile fun c => c == ' ' || c == '\t' || c == '\x0c'
    match here.chars with
    | [] => if state.brackets.isEmpty then some (⟨.endMarker, here.pos⟩ :: acc) else none
    | '#' :: _ =>
      let (_, after) := here.spanWhile (· != '\n')
      scanFrom normalize fuel state false after acc
    | '\n' :: rest =>
      let next : Cursor := ⟨rest, here.pos.advance '\n'⟩
      if state.brackets.isEmpty then
        scanFrom normalize fuel state true next (⟨.newline, here.pos⟩ :: acc)
      else scanFrom normalize fuel state true next acc
    | '\\' :: rest =>
      match rest with
      | '\n' :: next :: tail =>
        scanFrom normalize fuel state false
          ⟨next :: tail, (here.pos.advance '\\').advance '\n'⟩ acc
      | _ => none
    | _ =>
      let (lexeme, brackets, after) ← scanToken normalize state.brackets here
      scanFrom normalize fuel { state with brackets := brackets } false after
        (⟨lexeme, here.pos⟩ :: acc)

end Lexer

open Lexer in
def tokensAt (normalize : List Char → List Char) (pos : Position) (chars : List Char) :
    Option (List Token) :=
  (scanFrom normalize (2 * chars.length + 4) ⟨[], []⟩ true ⟨chars, pos⟩ []).map List.reverse

end TypingAudit.Source
