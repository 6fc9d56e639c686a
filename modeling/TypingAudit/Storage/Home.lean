import TypingAudit.Storage.Path

/-!
Home directories. A leading tilde stands for the user's own home, a tilde with a name for that of another
account; it is an error when there is none.
-/

namespace TypingAudit.Storage

structure Homes where
  own : Option String
  accounts : List (String × String)

namespace Homes

def find? (homes : Homes) (account : String) : Option String :=
  if account == "" then homes.own else homes.accounts.lookup account

end Homes

def unknownHome : String := "Could not determine home directory."

namespace Path

/-- The path with its leading tilde replaced, or `none` when the home is not known. -/
def expandHome (homes : Homes) (p : Path) : Option Path :=
  match p.anchor, p.segments with
  | .here, first :: rest =>
    match first.toList with
    | '~' :: account =>
      (homes.find? (String.ofList account)).map fun home =>
        let start := ofString home
        ⟨start.anchor, start.segments ++ rest⟩
    | _ => some p
  | _, _ => some p

end Path

end TypingAudit.Storage
