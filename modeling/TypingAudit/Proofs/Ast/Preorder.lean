import TypingAudit.Ast.Context

/-!
The order in which the nodes of a tree are visited, said by recursion on the tree: a node comes first, and
after it what is below each of its children in turn. The walk with an explicit stack keeps to this order.
-/

namespace TypingAudit.Ast

namespace Rose

variable {α : Type}

mutual

def values : Rose α → List α
  | .node v cs => v :: forestValues cs

def forestValues : List (Rose α) → List α
  | [] => []
  | t :: ts => t.values ++ forestValues ts

end

mutual

def preorder (above : List α) : Rose α → List (Place α)
  | .node v cs => ⟨v, above⟩ :: forestPreorder (v :: above) cs

def forestPreorder (above : List α) : List (Rose α) → List (Place α)
  | [] => []
  | t :: ts => preorder above t ++ forestPreorder above ts

end

theorem forestPreorder_eq_flatMap (above : List α) (ts : List (Rose α)) :
    forestPreorder above ts = (underneath above ts).flatMap fun entry => preorder entry.2 entry.1 := by
  induction ts with
  | nil => rfl
  | cons t ts ih =>
    rw [forestPreorder, ih]
    rfl

/-- The stack holds the trees whose nodes are still to come, in the order of their coming. -/
theorem walkFrom_eq_preorder (pending : Pending α) :
    walkFrom pending = pending.flatMap fun entry => preorder entry.2 entry.1 := by
  induction pending using walkFrom.induct with
  | case1 => simp [walkFrom]
  | case2 v cs above rest ih =>
    rw [walkFrom, ih, List.flatMap_append, ← forestPreorder_eq_flatMap, List.flatMap_cons, preorder]
    rfl

theorem walk_eq_preorder (t : Rose α) : t.walk = t.preorder [] := by
  rw [walk, walkFrom_eq_preorder]
  simp

theorem forestValues_append (ts us : List (Rose α)) :
    forestValues (ts ++ us) = forestValues ts ++ forestValues us := by
  induction ts with
  | nil => rfl
  | cons t ts ih => rw [List.cons_append, forestValues, forestValues, ih, List.append_assoc]

end Rose

/-- Every node of a tree in its surroundings, a node before all that is below it. -/
def NodeTree.inOrder (tree : NodeTree) : List Context := tree.preorder []

theorem NodeTree.contexts_eq_inOrder (tree : NodeTree) : NodeTree.contexts tree = NodeTree.inOrder tree :=
  tree.walk_eq_preorder

end TypingAudit.Ast
