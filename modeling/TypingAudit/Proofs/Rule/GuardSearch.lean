import TypingAudit.Proofs.Ast.Accesses
import TypingAudit.Proofs.Computation
import TypingAudit.Proofs.Pairing
import TypingAudit.Rule.Subscript

/-!
The search for a guard. A read of an element counts as guarded when some step on the way to it is taken only once the
container was asked about. This is found by going up from the read, and comes to the same as asking the tests that are
known on the way down to it, one after the other, until one of them does not say no. What a test says fails to be told
only where an integer has too many digits.
-/

namespace TypingAudit.Rule

open Ast Rose

section LongIntegers

variable {container : Expr}

theorem any_tree (role : Role) (e : Expr) :
    (e.tree role).any (fun o => o.node.isLongInteger) = e.hasLongInteger := by
  cases e <;> rfl

theorem forestAny_exprTrees (es : List Expr) :
    forestAny (fun o => o.node.isLongInteger) (exprTrees es) = es.any Expr.hasLongInteger := by
  induction es with
  | nil => rfl
  | cons e es ih => rw [exprTrees, forestAny, any_tree, ih, List.any_cons]

theorem forestAny_operandTrees (index : Nat) (es : List Expr) :
    forestAny (fun o => o.node.isLongInteger) (operandTrees index es) = es.any Expr.hasLongInteger := by
  induction es generalizing index with
  | nil => rfl
  | cons e es ih => rw [operandTrees, forestAny, any_tree, ih, List.any_cons]

theorem forestAny_append {α : Type} (test : α → Bool) (ts us : List (Rose α)) :
    forestAny test (ts ++ us) = (forestAny test ts || forestAny test us) := by
  induction ts with
  | nil => rfl
  | cons t ts ih => rw [List.cons_append, forestAny, forestAny, ih, Bool.or_assoc]

theorem forestAny_cmpOps (ops : List CmpOp) :
    forestAny (fun o => o.node.isLongInteger) (ops.map fun op => Node.leafTree (.cmpOp op)) = false := by
  induction ops with
  | nil => rfl
  | cons op ops ih => rw [List.map_cons, forestAny, ih]; rfl

variable {pos : Source.Position}

theorem hasLongInteger_boolOp (op : BoolOp) (values : List Expr) :
    (Expr.boolOp pos op values).hasLongInteger = values.any Expr.hasLongInteger := by
  rw [Expr.hasLongInteger, Expr.tree, Occurrence.tree, Rose.any, forestAny, forestAny_operandTrees]
  rfl

theorem hasLongInteger_unaryOp (op : UnaryOp) (operand : Expr) :
    (Expr.unaryOp pos op operand).hasLongInteger = operand.hasLongInteger := by
  rw [Expr.hasLongInteger, Expr.tree, Occurrence.tree, Rose.any, forestAny, forestAny, any_tree]
  exact Bool.or_false _

theorem hasLongInteger_compare (left : Expr) (ops : List CmpOp) (comparators : List Expr) :
    (Expr.compare pos left ops comparators).hasLongInteger = (left :: comparators).any Expr.hasLongInteger := by
  rw [Expr.hasLongInteger, Expr.tree, Occurrence.tree, Rose.any, List.cons_append, forestAny, any_tree,
    forestAny_append, forestAny_cmpOps, forestAny_exprTrees]
  rfl

theorem hasLongInteger_of_argument {func : Expr} {args : List Expr} {keywords : List Keyword}
    (short : (Expr.call pos func args keywords).hasLongInteger = false) : args.any Expr.hasLongInteger = false := by
  rw [Expr.hasLongInteger, Expr.tree, Occurrence.tree, Rose.any, forestAny, forestAny_append,
    forestAny_exprTrees] at short
  simp only [Bool.or_eq_false_iff] at short
  exact short.2.2.1

theorem giveAccount_of_short {e : Expr} (short : e.hasLongInteger = false) : e.giveAccount = .ok () := by
  rw [Expr.giveAccount, short]
  rfl

theorem isAlike_succeeds {e : Expr} (short : e.hasLongInteger = false) : Succeeds (isAlike container e) := by
  rw [isAlike, giveAccount_of_short short]
  exact ⟨_, rfl⟩

theorem isLengthOf_succeeds {e : Expr} (short : e.hasLongInteger = false) : Succeeds (isLengthOf container e) := by
  unfold isLengthOf
  split
  next pos namePos usage first others keywords =>
    have arguments := hasLongInteger_of_argument short
    rw [List.any_cons, Bool.or_eq_false_iff] at arguments
    exact isAlike_succeeds arguments.1
  next => exact ⟨false, rfl⟩

theorem hasMembership_succeeds (op : CmpOp) (ops : List CmpOp) {comparators : List Expr}
    (short : ∀ e ∈ comparators, e.hasLongInteger = false) : Succeeds (hasMembership op container ops comparators) := by
  refine anyM_succeeds fun link member => ?_
  split
  · exact isAlike_succeeds (short link.2 (List.of_mem_zip member).2)
  · exact ⟨false, rfl⟩

theorem short_of_any {es : List Expr} (short : es.any Expr.hasLongInteger = false) :
    ∀ e ∈ es, e.hasLongInteger = false :=
  fun e member => Bool.eq_false_iff.2 (List.any_eq_false.1 short e member)

mutual

theorem holdsOnlyChecked_succeeds (account : container.hasLongInteger = false) : (test : Expr) →
    test.hasLongInteger = false → Succeeds (holdsOnlyChecked container test)
  | test, short => by
    unfold holdsOnlyChecked
    rw [giveAccount_of_short account]
    split
    next pos values =>
      rw [hasLongInteger_boolOp] at short
      exact anyHoldsOnlyChecked_succeeds account values short
    next pos left ops comparators =>
      rw [hasLongInteger_compare] at short
      have each := short_of_any short
      refine (hasMembership_succeeds .isIn ops fun e member => each e (List.mem_cons_of_mem _ member)).orM ?_
      exact anyM_succeeds fun e member => isLengthOf_succeeds (each e member)
    next => exact isLengthOf_succeeds short

theorem anyHoldsOnlyChecked_succeeds (account : container.hasLongInteger = false) : (values : List Expr) →
    values.any Expr.hasLongInteger = false → Succeeds (anyHoldsOnlyChecked container values)
  | [], _ => ⟨false, rfl⟩
  | e :: es, short => by
    rw [List.any_cons, Bool.or_eq_false_iff] at short
    rw [anyHoldsOnlyChecked]
    exact (holdsOnlyChecked_succeeds account e short.1).orM (anyHoldsOnlyChecked_succeeds account es short.2)

end

mutual

theorem failsOnlyChecked_succeeds (account : container.hasLongInteger = false) : (test : Expr) →
    test.hasLongInteger = false → Succeeds (failsOnlyChecked container test)
  | test, short => by
    unfold failsOnlyChecked
    split
    next pos values =>
      rw [hasLongInteger_boolOp] at short
      exact anyFailsOnlyChecked_succeeds account values short
    next pos operand =>
      rw [hasLongInteger_unaryOp] at short
      exact holdsOnlyChecked_succeeds account operand short
    next pos left ops comparators =>
      rw [hasLongInteger_compare] at short
      rw [giveAccount_of_short account]
      exact hasMembership_succeeds .notIn ops fun e member => short_of_any short e (List.mem_cons_of_mem _ member)
    next => exact ⟨false, rfl⟩

theorem anyFailsOnlyChecked_succeeds (account : container.hasLongInteger = false) : (values : List Expr) →
    values.any Expr.hasLongInteger = false → Succeeds (anyFailsOnlyChecked container values)
  | [], _ => ⟨false, rfl⟩
  | e :: es, short => by
    rw [List.any_cons, Bool.or_eq_false_iff] at short
    rw [anyFailsOnlyChecked]
    exact (failsOnlyChecked_succeeds account e short.1).orM (anyFailsOnlyChecked_succeeds account es short.2)

end

end LongIntegers

section Known

theorem subscript_of_applies {stack : CallStack} {node : Node}
    (applies : (uncheckedIndexAccess stack).applies node = true) :
    ∃ pos value index usage, node = .expr (.subscript pos value index usage) := by
  simp only [uncheckedIndexAccess] at applies
  split at applies
  · exact ⟨_, _, _, _, rfl⟩
  · cases applies

end Known

end TypingAudit.Rule
