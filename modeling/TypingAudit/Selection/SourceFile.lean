import TypingAudit.Storage.Path

/-!
Source files as they are handed from selection to audit.
-/

namespace TypingAudit.Selection

open Storage

structure SourceFile where
  path : Path
  unitPath : String
deriving DecidableEq, Repr

end TypingAudit.Selection
