import TypingAudit.Text.Identifier
import TypingAudit.Ast.Constant

/-!
Number literals: decimal, hexadecimal, octal and binary integers, floats, and imaginary numbers.
An underscore may stand between two digits. A literal must not run into a name, except that the keywords
which can follow a number may touch it.
-/

namespace TypingAudit.Source.Number

open Text
open Ast (Constant)
open Decimal (Binary)

def hexValue? (c : Char) : Option Nat :=
  if isAsciiDigit c then some (c.toNat - '0'.toNat)
  else if decide ('a' ≤ c) && decide (c ≤ 'f') then some (c.toNat - 'a'.toNat + 10)
  else if decide ('A' ≤ c) && decide (c ≤ 'F') then some (c.toNat - 'A'.toNat + 10)
  else none

def digitIn (base : Nat) (c : Char) : Option Nat :=
  (hexValue? c).filter (· < base)

/-- A run of digits with single underscores between them, after a digit has been read. The digits come
back in reverse. An underscore without a digit after it is refused. -/
def moreDigits (base : Nat) : List Char → List Nat → Option (List Nat × List Char)
  | [], acc => some (acc, [])
  | c :: rest, acc =>
    match digitIn base c with
    | some d => moreDigits base rest (d :: acc)
    | none =>
      if c == '_' then
        match rest with
        | next :: tail =>
          match digitIn base next with
          | some d => moreDigits base tail (d :: acc)
          | none => none
        | [] => none
      else some (acc, c :: rest)

def valueOf (base : Nat) (reversed : List Nat) : Nat :=
  reversed.foldr (fun d acc => acc * base + d) 0

def continuesName (c : Char) : Bool :=
  isAsciiLetter c || isAsciiDigit c || c == '_' || 128 ≤ c.toNat

/-- The keywords that may touch a number. -/
def touchingKeywords : List String := ["and", "else", "for", "if", "in", "is", "or", "not"]

def mayEnd (rest : List Char) : Bool :=
  match rest with
  | [] => true
  | c :: _ => !continuesName c || touchingKeywords.any (fun w => w.toList.isPrefixOf rest)

def ended (value : Constant) (rest : List Char) : Option (Constant × List Char) :=
  if mayEnd rest then some (value, rest) else none

def based (base : Nat) (chars : List Char) : Option (Constant × List Char) := do
  let chars := match chars with | '_' :: rest => rest | _ => chars
  match chars with
  | [] => none
  | c :: rest =>
    let first ← digitIn base c
    let (digits, rest) ← moreDigits base rest [first]
    match rest with
    | next :: _ => if isAsciiDigit next then none else ended (.int (valueOf base digits)) rest
    | [] => ended (.int (valueOf base digits)) rest

def maxDigits : Nat := 4300

def closeFloat (digits : List Nat) (scale : Int) (rest : List Char) :
    Option (Constant × List Char) :=
  let value := Binary.ofDecimal (valueOf 10 digits) scale
  match rest with
  | 'j' :: tail => ended (.imaginary value) tail
  | 'J' :: tail => ended (.imaginary value) tail
  | _ => ended (.float value) rest

def exponentDigits (negative : Bool) (digits : List Nat) (scale : Int) (chars : List Char) :
    Option (Constant × List Char) := do
  match chars with
  | [] => none
  | c :: rest =>
    let first ← digitIn 10 c
    let (exponent, rest) ← moreDigits 10 rest [first]
    let shift : Int := valueOf 10 exponent
    closeFloat digits (if negative then scale - shift else scale + shift) rest

/-- What may follow the digits of a float. An exponent mark without digits ends the literal when it
starts a keyword; `whole` then tells whether the literal is still an integer. -/
def afterFraction (whole : Option Constant) (digits : List Nat) (scale : Int) (chars : List Char) :
    Option (Constant × List Char) :=
  let closed := match whole with
    | some value => ended value chars
    | none => closeFloat digits scale chars
  match chars with
  | mark :: rest =>
    if mark == 'e' || mark == 'E' then
      match rest with
      | '+' :: tail => exponentDigits false digits scale tail
      | '-' :: tail => exponentDigits true digits scale tail
      | c :: _ => if isAsciiDigit c then exponentDigits false digits scale rest else closed
      | [] => closed
    else if mark == 'j' || mark == 'J' then closeFloat digits scale chars
    else closed
  | [] => closed

def fraction (digits : List Nat) (chars : List Char) : Option (Constant × List Char) :=
  match chars with
  | c :: rest =>
    match digitIn 10 c with
    | some d => do
      let (all, rest) ← moreDigits 10 rest (d :: digits)
      afterFraction none all (-((all.length - digits.length : Nat) : Int)) rest
    | none => afterFraction none digits 0 chars
  | [] => afterFraction none digits 0 []

/-- A literal whose first digits have been read. Integers must not start with a zero unless they are
zero. -/
def afterDigits (leadingZero : Bool) (digits : List Nat) (chars : List Char) :
    Option (Constant × List Char) :=
  match chars with
  | '.' :: rest => fraction digits rest
  | _ =>
    let value := valueOf 10 digits
    let refused := value != 0 && (leadingZero || maxDigits < digits.length)
    afterFraction (some (.int value)) digits 0 chars |>.filter fun (constant, _) =>
      match constant with
      | .int _ => !refused
      | _ => true

def scan : List Char → Option (Constant × List Char)
  | '.' :: rest => fraction [] rest
  | '0' :: mark :: rest =>
    if mark == 'x' || mark == 'X' then based 16 rest
    else if mark == 'o' || mark == 'O' then based 8 rest
    else if mark == 'b' || mark == 'B' then based 2 rest
    else do
      let (digits, rest) ← moreDigits 10 (mark :: rest) [0]
      afterDigits true digits rest
  | c :: rest => do
    let first ← digitIn 10 c
    let (digits, rest) ← moreDigits 10 rest [first]
    afterDigits false digits rest
  | [] => none

end TypingAudit.Source.Number
