/-!
Tables of numbers, written as lines of hexadecimal figures with blanks between them.
-/

namespace TypingAudit.Text

namespace Table

def figure (c : Char) : Nat := if c.isDigit then c.toNat - 48 else c.toNat - 87

/-- The numbers of one line, in front of which `read` is the part of a number read so far. -/
def numbersFrom (read : Option Nat) : List Char → List Nat
  | [] => read.toList
  | c :: rest =>
    if c = ' ' then read.toList ++ numbersFrom none rest
    else numbersFrom (some (16 * read.getD 0 + figure c)) rest

def numbers (lines : List String) : List Nat := lines.flatMap fun line => numbersFrom none line.toList

def triples : List Nat → List (Nat × Nat × Nat)
  | a :: b :: c :: rest => (a, b, c) :: triples rest
  | _ => []

end Table

/-- For ranges of code points, each with a first and a last one, the number that belongs to each. -/
abbrev RangeTable := List (Nat × Nat × Nat)

def RangeTable.find? (table : RangeTable) (point : Nat) : Option (Nat × Nat) :=
  (List.find? (fun entry => entry.1 ≤ point && point ≤ entry.2.1) table).map fun entry =>
    (entry.1, entry.2.2)

end TypingAudit.Text
