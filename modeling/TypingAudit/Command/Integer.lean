import TypingAudit.Text.Blank
import TypingAudit.Text.Digit

/-!
Whole numbers on the command line: blanks around, a sign, and digits of any script, between which single
underscores may stand.
-/

namespace TypingAudit.Command

open Text

def mostDigits : Nat := 4300

/-- A character as a digit or sign; outside ASCII a blank is as good as another. -/
def plainChar (c : Char) : Char :=
  if c.toNat < 128 then c
  else if isBlank c.toNat then ' '
  else
    match digitValue? c with
    | some n => Char.ofNat (48 + n)
    | none => '?'

def isAsciiBlank (c : Char) : Bool := c == ' ' || ('\t' ≤ c && c ≤ '\r')

def trimAsciiBlanks (text : List Char) : List Char :=
  ((text.dropWhile isAsciiBlank).reverse.dropWhile isAsciiBlank).reverse

/-- The digits of a number; an underscore needs a digit on either side. -/
def digits? : List Char → Option (List Nat)
  | [] => none
  | [c] => if c.isDigit then some [c.toNat - 48] else none
  | c :: '_' :: rest => if c.isDigit then (digits? rest).map ((c.toNat - 48) :: ·) else none
  | c :: rest => if c.isDigit then (digits? rest).map ((c.toNat - 48) :: ·) else none

def natural? (text : List Char) : Option Nat :=
  match digits? text with
  | none => none
  | some digits =>
    if mostDigits < digits.length then none
    else some (digits.foldl (fun n d => 10 * n + d) 0)

def integer? (text : String) : Option Int :=
  match trimAsciiBlanks (text.toList.map plainChar) with
  | '+' :: rest => (natural? rest).map Int.ofNat
  | '-' :: rest => (natural? rest).map fun n => -Int.ofNat n
  | rest => (natural? rest).map Int.ofNat

end TypingAudit.Command
