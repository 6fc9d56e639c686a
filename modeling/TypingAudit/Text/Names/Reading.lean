import TypingAudit.Text.Split

/-!
Lists of names, written short. The entries of a line stand between commas, in the order of the code points.
An entry has how many code points are left out before it, if any; then a letter that says how many words it
has in common with the entry before it, with `a` for none; then its other words.
-/

namespace TypingAudit.Text.Names

/-- A code point with the words of its name. -/
structure Entry where
  point : Nat
  words : List (List Char)
deriving DecidableEq, Repr

namespace Entry

def start : Entry := ⟨0, []⟩

def next (before : Entry) (written : List Char) : Entry :=
  let skipped := (written.takeWhile Char.isDigit).foldl (fun n c => 10 * n + (c.toNat - 48)) 0
  match written.dropWhile Char.isDigit with
  | [] => before
  | shared :: rest =>
    { point := before.point + skipped + 1
      words := before.words.take (shared.toNat - 97) ++ splitWhere (· == ' ') rest }

end Entry

def pieces (lines : List String) : List (List Char) :=
  lines.flatMap fun line => splitWhere (· == ',') line.toList

def search (words : List (List Char)) : Entry → List (List Char) → Option Nat
  | _, [] => none
  | before, written :: rest =>
    let entry := before.next written
    if entry.words = words then some entry.point else search words entry rest

def find? (lines : List String) (words : List (List Char)) : Option Nat :=
  search words .start (pieces lines)

end TypingAudit.Text.Names
