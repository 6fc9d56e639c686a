/-!
Sets of code points as lists of turning points. A set that holds `a` to `b - 1` and `c` to `d - 1` is
written `[a, b, c, d]`: membership turns over at each listed code point, so a code point is in the set
when an odd number of turning points is at or below it.
-/

namespace TypingAudit.Text

/-- Turning points in rising order. -/
abbrev Ranges := List Nat

def Ranges.has : Ranges → Nat → Bool
  | [], _ => false
  | turn :: turns, point => if point < turn then false else !(Ranges.has turns point)

end TypingAudit.Text
