/-!
Trees whose nodes have any number of children, and the ways to visit them: from the top with an explicit
stack, remembering the path to each node, and level by level.
-/

namespace TypingAudit.Ast

inductive Rose (α : Type) where
  | node (value : α) (children : List (Rose α))

namespace Rose

variable {α : Type}

def value : Rose α → α
  | .node v _ => v

def children : Rose α → List (Rose α)
  | .node _ cs => cs

def leaf (v : α) : Rose α := .node v []

mutual

def size : Rose α → Nat
  | .node _ cs => 1 + forestSize cs

def forestSize : List (Rose α) → Nat
  | [] => 0
  | t :: ts => t.size + forestSize ts

end

mutual

def any (test : α → Bool) : Rose α → Bool
  | .node v cs => test v || forestAny test cs

def forestAny (test : α → Bool) : List (Rose α) → Bool
  | [] => false
  | t :: ts => t.any test || forestAny test ts

end

theorem forestSize_append (ts us : List (Rose α)) :
    forestSize (ts ++ us) = forestSize ts + forestSize us := by
  induction ts with
  | nil => simp [forestSize]
  | cons t ts ih => simp [forestSize, ih, Nat.add_assoc]

theorem size_eq (t : Rose α) : t.size = 1 + forestSize t.children := by
  cases t
  simp [size, children]

theorem forestSize_children_le (ts : List (Rose α)) :
    forestSize (ts.flatMap children) + ts.length = forestSize ts := by
  induction ts with
  | nil => simp [forestSize]
  | cons t ts ih =>
    simp only [List.flatMap_cons, forestSize_append, List.length_cons, forestSize, size_eq t]
    omega

/-- A value and the values above it, the nearest first. -/
structure Place (α : Type) where
  value : α
  above : List α

namespace Place

def chainTo (child : α) : List α → List (α × α)
  | [] => []
  | parent :: above => (parent, child) :: chainTo parent above

/-- Every step on the way to a value, from a parent to its child; the step to the value itself comes first. -/
def chain (p : Place α) : List (α × α) := chainTo p.value p.above

end Place

abbrev Pending (α : Type) := List (Rose α × List α)

def pendingSize (pending : Pending α) : Nat := forestSize (pending.map (·.1))

def underneath (path : List α) (ts : List (Rose α)) : Pending α := ts.map (·, path)

theorem pendingSize_underneath_append (path : List α) (ts : List (Rose α)) (rest : Pending α) :
    pendingSize (underneath path ts ++ rest) = forestSize ts + pendingSize rest := by
  have same : (underneath path ts).map (·.1) = ts := by
    simp [underneath, Function.comp_def]
  rw [pendingSize, List.map_append, forestSize_append, same, pendingSize]

/-- Visits the tree on top of the stack and puts its children in its place. -/
def walkFrom : Pending α → List (Place α)
  | [] => []
  | (.node v cs, above) :: rest => ⟨v, above⟩ :: walkFrom (underneath (v :: above) cs ++ rest)
termination_by pending => pendingSize pending
decreasing_by
  rw [pendingSize_underneath_append]
  simp only [pendingSize, List.map_cons, forestSize, size]
  omega

def walk (t : Rose α) : List (Place α) := walkFrom [(t, [])]

def levelsFrom : List (Rose α) → List α
  | [] => []
  | t :: ts => (t :: ts).map value ++ levelsFrom ((t :: ts).flatMap children)
termination_by forest => forestSize forest
decreasing_by
  have shrinks := forestSize_children_le (t :: ts)
  simp only [List.length_cons] at shrinks
  omega

def levels (t : Rose α) : List α := levelsFrom [t]

end Rose

end TypingAudit.Ast
