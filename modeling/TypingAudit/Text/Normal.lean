import TypingAudit.Text.Combining
import TypingAudit.Text.Decomposition

/-!
The normal form in which names are compared: compatible characters are taken apart, marks are put in the
order of their classes, and what belongs together is composed again. ASCII is its own normal form.
-/

namespace TypingAudit.Text

/-- Sorts each run of marks by class; marks of one class keep their order. -/
def orderMarks : List Nat → List Nat → List Nat
  | [], marks => marks.mergeSort fun a b => combiningClass a ≤ combiningClass b
  | point :: rest, marks =>
    if combiningClass point = 0 then
      (marks.mergeSort fun a b => combiningClass a ≤ combiningClass b) ++ point :: orderMarks rest []
    else orderMarks rest (marks ++ [point])

structure Cluster where
  base : Nat
  marks : List Nat

namespace Cluster

def points (c : Cluster) : List Nat := c.base :: c.marks

/-- Whether a character that follows can still be composed with the base: no mark of its class or a higher
one stands between them. -/
def isOpenTo (c : Cluster) (point : Nat) : Bool :=
  match c.marks.getLast? with
  | none => true
  | some last => combiningClass last < combiningClass point

end Cluster

def composeFrom : Option Cluster → List Nat → List Nat
  | open', [] => (open'.map Cluster.points).getD []
  | none, point :: rest =>
    if combiningClass point = 0 then composeFrom (some ⟨point, []⟩) rest
    else point :: composeFrom none rest
  | some cluster, point :: rest =>
    match if cluster.isOpenTo point then compose? cluster.base point else none with
    | some composed => composeFrom (some { cluster with base := composed }) rest
    | none =>
      if combiningClass point = 0 then cluster.points ++ composeFrom (some ⟨point, []⟩) rest
      else composeFrom (some { cluster with marks := cluster.marks ++ [point] }) rest

def normalizePoints (points : List Nat) : List Nat :=
  composeFrom none (orderMarks (points.flatMap decompose) [])

def normalizeName (name : List Char) : List Char :=
  if name.all (·.toNat < 128) then name else (normalizePoints (name.map Char.toNat)).map Char.ofNat

end TypingAudit.Text
