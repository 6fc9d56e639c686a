import TypingAudit.Text.Ranges

/-!
White space as a text's edge: the characters that trimming removes.
-/

namespace TypingAudit.Text

def blankRanges : Ranges := [
  0x9, 0xe, 0x1c, 0x21, 0x85, 0x86, 0xa0, 0xa1, 0x1680, 0x1681, 0x2000, 0x200b, 0x2028, 0x202a,
  0x202f, 0x2030, 0x205f, 0x2060, 0x3000, 0x3001]

def isBlank (point : Nat) : Bool := blankRanges.has point

/-- Removes the elements satisfying `drop` from both ends. -/
def trimBoth {α : Type} (drop : α → Bool) (xs : List α) : List α :=
  ((xs.dropWhile drop).reverse.dropWhile drop).reverse

def trimBlanks (text : List Char) : List Char :=
  trimBoth (fun c => isBlank c.toNat) text

end TypingAudit.Text
