import TypingAudit.Text.Blank

/-!
Texts as code points. An escape in a literal can spell half of a surrogate pair, which no character
holds, so the text of a literal is kept as numbers.
-/

namespace TypingAudit.Text

structure CodePoints where
  points : List Nat
deriving DecidableEq, Inhabited, Repr

namespace CodePoints

def ofChars (chars : List Char) : CodePoints := ⟨chars.map Char.toNat⟩

def ofString (text : String) : CodePoints := ofChars text.toList

instance : Append CodePoints where
  append a b := ⟨a.points ++ b.points⟩

def isEmpty (text : CodePoints) : Bool := text.points.isEmpty

def trimmed (text : CodePoints) : CodePoints := ⟨trimBoth isBlank text.points⟩

/-- What follows the last full stop; the whole text when there is none. -/
def afterLastDot (text : CodePoints) : CodePoints :=
  ⟨(text.points.reverse.takeWhile (· ≠ '.'.toNat)).reverse⟩

end CodePoints

end TypingAudit.Text
