import TypingAudit.Text.CodePoints
import TypingAudit.Text.Printable
import TypingAudit.Text.Split

/-!
Texts in quotes. The plain form escapes the backslash, the quote and everything unprintable; it takes
single quotes unless the text holds some and no double ones. The sparing form avoids escapes: it starts
from a list of quotes and keeps those that need none.
-/

namespace TypingAudit.Text

def hexDigits : Nat → Nat → List Char
  | 0, _ => []
  | count + 1, n => hexDigits count (n / 16) ++ [Nat.digitChar (n % 16)]

def escapePoint (point : Nat) : List Char :=
  if point = 92 then ['\\', '\\']
  else if point = 9 then ['\\', 't']
  else if point = 10 then ['\\', 'n']
  else if point = 13 then ['\\', 'r']
  else if point < 0x100 then '\\' :: 'x' :: hexDigits 2 point
  else if point < 0x10000 then '\\' :: 'u' :: hexDigits 4 point
  else '\\' :: 'U' :: hexDigits 8 point

/-- Single quotes, unless the text holds some and no double ones. -/
def quoteFor (points : List Nat) : Char :=
  if points.contains '\''.toNat && !points.contains '"'.toNat then '"' else '\''

def plainPoint (quote : Char) (point : Nat) : List Char :=
  if point = quote.toNat then ['\\', quote]
  else if point = 92 || !isPrintable point then escapePoint point
  else [Char.ofNat point]

namespace CodePoints

def quotedInner (text : CodePoints) : List Char :=
  text.points.flatMap (plainPoint (quoteFor text.points))

def quoted (text : CodePoints) : String :=
  let quote := quoteFor text.points
  String.ofList (quote :: (text.quotedInner ++ [quote]))

end CodePoints

def quotedString (text : String) : String := (CodePoints.ofString text).quoted

def plainByte (quote : Char) (byte : UInt8) : List Char :=
  if byte.toNat < 127 then plainPoint quote byte.toNat else escapePoint byte.toNat

def quotedBytes (data : List UInt8) : String :=
  let quote := quoteFor (data.map UInt8.toNat)
  String.ofList ('b' :: quote :: (data.flatMap (plainByte quote) ++ [quote]))

namespace Sparing

def quotes : List (List Char) := [['\''], ['"'], ['"', '"', '"'], ['\'', '\'', '\'']]

def escape (blanks : Bool) (points : List Nat) : List Char :=
  points.flatMap fun point =>
    if !blanks && (point == 10 || point == 9) then [Char.ofNat point]
    else if point == 92 || !isPrintable point then escapePoint point
    else [Char.ofNat point]

/-- Writes a text so that it can stand between one of the quotes that come with it. Of the quotes given,
those are kept that do not occur in the text and, for a text of several lines, are tripled; those that
would meet their own character at the text's end come last. Without any, the plain form is taken. -/
def write (text : CodePoints) (given : List (List Char)) (blanks : Bool) :
    List Char × List (List Char) :=
  let escaped := escape blanks text.points
  let lineFree := if escaped.contains '\n' then given.filter (·.length == 3) else given
  let possible := lineFree.filter fun quote => !occursIn quote escaped
  if possible.isEmpty then
    let quote := quoteFor text.points
    (text.quotedInner, [(given.find? (·.contains quote)).getD [quote]])
  else
    match escaped.getLast? with
    | none => (escaped, possible)
    | some last =>
      let clashes (quote : List Char) : Bool := quote.head? == some last
      let ordered := possible.filter (fun quote => !clashes quote) ++ possible.filter clashes
      if (ordered.head?.map clashes).getD false then
        (escaped.dropLast ++ ['\\', last], ordered)
      else (escaped, ordered)

def enclose : List Char × List (List Char) → String
  | (text, quotes) =>
    let quote := quotes.headD []
    String.ofList (quote ++ text ++ quote)

/-- Writes parts that share their quotes, each of them between those that the parts before it have left. A part
comes with whether its line feeds and tabs are escaped. There is no common form when a part needs other quotes. -/
def writeParts? : List (CodePoints × Bool) → List (List Char) → Option (List Char × List (List Char))
  | [], given => some ([], given)
  | (text, blanks) :: parts, given =>
    let (front, left) := write text given blanks
    if left.any given.contains then (writeParts? parts left).map fun later => (front ++ later.1, later.2)
    else none

def writePlainly (parts : List (CodePoints × Bool)) : List Char × List (List Char) :=
  (parts.flatMap fun part => part.1.points.flatMap (plainPoint '\''), [['\'', '\'', '\'']])

end Sparing

end TypingAudit.Text
