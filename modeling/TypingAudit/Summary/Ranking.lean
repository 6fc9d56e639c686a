import TypingAudit.Audit.Finding

/-!
Codes by how often they occur: the most frequent first, and among equals by name.
-/

namespace TypingAudit.Summary

open Audit

def codeCounts (findings : List Finding) : List (String × Nat) :=
  let codes := findings.map Finding.code
  codes.eraseDups.map fun code => (code, codes.count code)

def ranksBefore (a b : String × Nat) : Bool :=
  decide (b.2 < a.2) || (a.2 == b.2 && decide (a.1 ≤ b.1))

/-- The items up to a limit; a negative limit counts from the end. -/
def upTo {α : Type} (limit : Int) (items : List α) : List α :=
  if 0 ≤ limit then items.take limit.toNat else items.take (items.length - (-limit).toNat)

def mostFrequent (limit : Int) (findings : List Finding) : List (String × Nat) :=
  upTo limit ((codeCounts findings).mergeSort ranksBefore)

end TypingAudit.Summary
