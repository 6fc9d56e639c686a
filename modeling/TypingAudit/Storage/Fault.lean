import TypingAudit.Text.Quoted

/-!
What can go wrong when a file is opened or a directory is made.
-/

namespace TypingAudit.Storage

inductive FaultKind where
  | missing
  | alreadyThere
  | notADirectory
  | isADirectory
deriving DecidableEq, Repr

namespace FaultKind

def number : FaultKind → Nat
  | .missing => 2
  | .alreadyThere => 17
  | .notADirectory => 20
  | .isADirectory => 21

def text : FaultKind → String
  | .missing => "No such file or directory"
  | .alreadyThere => "File exists"
  | .notADirectory => "Not a directory"
  | .isADirectory => "Is a directory"

end FaultKind

structure Fault where
  kind : FaultKind
  path : String
deriving DecidableEq, Repr

namespace Fault

def message (f : Fault) : String :=
  "[Errno " ++ toString f.kind.number ++ "] " ++ f.kind.text ++ ": " ++ Text.quotedString f.path

end Fault

end TypingAudit.Storage
