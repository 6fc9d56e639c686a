import Mathlib

/-!
The words of a JSON text. A text is gone through character by character; between two words blanks are passed over,
and whatever is no word of JSON ends the reading. A character above the first plane may be written as two units of
sixteen bits, and a unit of such a pair that stands alone is refused.
-/

namespace TypingAudit.Json

inductive Token where
  | openList | closeList | openFields | closeFields | comma | colon
  | text (value : String)
  /-- The mantissa times a power of ten. -/
  | number (mantissa exponent : Int)
  | truth (value : Bool)
  | null
deriving DecidableEq, Repr

/-- Where in a word the reading stands. -/
inductive Scan where
  | blank
  | inText (read : List Char)
  | escaped (read : List Char)
  /-- Among the four digits of a unit, perhaps after the first unit of a pair. -/
  | inUnit (read : List Char) (high : Option Nat) (digits : List Nat)
  | afterHigh (read : List Char) (high : Nat)
  | beforeLow (read : List Char) (high : Nat)
  | inNumber (read : List Char)
  | inWord (read : List Char)
deriving DecidableEq, Repr

namespace Scan

def isBlank (c : Char) : Bool := c == ' ' || c == '\t' || c == '\n' || c == '\r'

def mark? : Char → Option Token
  | '[' => some .openList
  | ']' => some .closeList
  | '\x7b' => some .openFields
  | '\x7d' => some .closeFields
  | ',' => some .comma
  | ':' => some .colon
  | _ => none

def isNumberChar (c : Char) : Bool := c.isDigit || c == '-' || c == '+' || c == '.' || c == 'e' || c == 'E'

def start (c : Char) : Option (List Token × Scan) :=
  if isBlank c then some ([], .blank)
  else
    match mark? c with
    | some token => some ([token], .blank)
    | none =>
      if c = '"' then some ([], .inText [])
      else if c.isDigit || c == '-' then some ([], .inNumber [c])
      else if c.isLower then some ([], .inWord [c])
      else none

def escape? : Char → Option Char
  | '"' => some '"'
  | '\\' => some '\\'
  | '/' => some '/'
  | 'b' => some '\x08'
  | 'f' => some '\x0c'
  | 'n' => some '\n'
  | 'r' => some '\r'
  | 't' => some '\t'
  | _ => none

def hexValue? (c : Char) : Option Nat :=
  if c.isDigit then some (c.toNat - '0'.toNat)
  else if 'a' ≤ c ∧ c ≤ 'f' then some (c.toNat - 'a'.toNat + 10)
  else if 'A' ≤ c ∧ c ≤ 'F' then some (c.toNat - 'A'.toNat + 10)
  else none

/-- Takes a unit: a character of the first plane, or one half of a pair. -/
def takeUnit (read : List Char) : Option Nat → Nat → Option Scan
  | none, n =>
    if 0xD800 ≤ n ∧ n < 0xDC00 then some (.afterHigh read n)
    else if 0xDC00 ≤ n ∧ n < 0xE000 then none
    else some (.inText (read ++ [Char.ofNat n]))
  | some high, n =>
    if 0xDC00 ≤ n ∧ n < 0xE000 then
      some (.inText (read ++ [Char.ofNat (0x10000 + (high - 0xD800) * 0x400 + (n - 0xDC00))]))
    else none

def fraction? : List Char → Option (List Char × List Char)
  | '.' :: rest =>
    if (rest.takeWhile Char.isDigit).isEmpty then none
    else some (rest.takeWhile Char.isDigit, rest.dropWhile Char.isDigit)
  | rest => some ([], rest)

def natural? (digits : List Char) : Option Int :=
  if digits ≠ [] ∧ digits.all Char.isDigit then some (Nat.ofDigitChars 10 digits 0) else none

def exponent? : List Char → Option Int
  | [] => some 0
  | c :: rest =>
    if c = 'e' ∨ c = 'E' then
      match rest with
      | '-' :: digits => (natural? digits).map (- ·)
      | '+' :: digits => natural? digits
      | digits => natural? digits
    else none

/-- A number without its sign. A zero in front stands alone. -/
def unsigned? (read : List Char) : Option (Int × Int) :=
  let whole := read.takeWhile Char.isDigit
  if whole = [] ∨ (whole.head? = some '0' ∧ 1 < whole.length) then none
  else do
    let (fraction, rest) ← fraction? (read.dropWhile Char.isDigit)
    let exponent ← exponent? rest
    return (Nat.ofDigitChars 10 (whole ++ fraction) 0, exponent - fraction.length)

def number? : List Char → Option Token
  | '-' :: read => (unsigned? read).map fun n => .number (-n.1) n.2
  | read => (unsigned? read).map fun n => .number n.1 n.2

def word? (read : List Char) : Option Token :=
  if read = "true".toList then some (.truth true)
  else if read = "false".toList then some (.truth false)
  else if read = "null".toList then some .null
  else none

/-- Ends a word whose end only the next character shows, and begins with that character. -/
def endWord (word : Option Token) (c : Char) : Option (List Token × Scan) := do
  let token ← word
  let (tokens, next) ← start c
  return (token :: tokens, next)

def step : Scan → Char → Option (List Token × Scan)
  | .blank, c => start c
  | .inText read, c =>
    if c = '"' then some ([.text (String.ofList read)], .blank)
    else if c = '\\' then some ([], .escaped read)
    else if c < ' ' then none
    else some ([], .inText (read ++ [c]))
  | .escaped read, c =>
    if c = 'u' then some ([], .inUnit read none [])
    else (escape? c).map fun meant => ([], .inText (read ++ [meant]))
  | .inUnit read high digits, c => do
    let digits := digits ++ [← hexValue? c]
    if digits.length < 4 then return ([], .inUnit read high digits)
    else return ([], ← takeUnit read high (digits.foldl (fun n d => 16 * n + d) 0))
  | .afterHigh read high, c => if c = '\\' then some ([], .beforeLow read high) else none
  | .beforeLow read high, c => if c = 'u' then some ([], .inUnit read (some high) []) else none
  | .inNumber read, c =>
    if isNumberChar c then some ([], .inNumber (read ++ [c])) else endWord (number? read) c
  | .inWord read, c => if c.isLower then some ([], .inWord (read ++ [c])) else endWord (word? read) c

def finish : Scan → Option (List Token)
  | .blank => some []
  | .inNumber read => (number? read).map ([·])
  | .inWord read => (word? read).map ([·])
  | _ => none

end Scan

def scan (s : Scan) : List Char → Option (List Token)
  | [] => s.finish
  | c :: rest => (s.step c).bind fun r => (scan r.2 rest).map (r.1 ++ ·)

theorem scan_cons {s next : Scan} {c : Char} {tokens : List Token} (stepped : s.step c = some (tokens, next))
    (rest : List Char) : scan s (c :: rest) = (scan next rest).map (tokens ++ ·) := by
  rw [scan, stepped, Option.bind_some]

theorem scan_cons_inside {s next : Scan} {c : Char} (stepped : s.step c = some ([], next)) (rest : List Char) :
    scan s (c :: rest) = scan next rest := by
  rw [scan_cons stepped]
  exact Option.map_id_apply

end TypingAudit.Json
