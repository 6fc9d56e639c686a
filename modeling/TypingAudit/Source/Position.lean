/-!
Places in a source text: a line counted from one, and the offset in UTF-8 bytes from the line's start.
-/

namespace TypingAudit.Source

structure Position where
  line : Nat
  offset : Nat
deriving DecidableEq, Inhabited, Repr

namespace Position

def start : Position := ⟨1, 0⟩

/-- Columns are reported from one. -/
def column (p : Position) : Nat := p.offset + 1

def advance (p : Position) (c : Char) : Position :=
  if c = '\n' then ⟨p.line + 1, 0⟩ else ⟨p.line, p.offset + c.utf8Size⟩

def advanceBy (p : Position) (chars : List Char) : Position := chars.foldl advance p

end Position

end TypingAudit.Source
