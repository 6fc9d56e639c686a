import TypingAudit.Proofs.Rule.ShortCircuit
import TypingAudit.Rule.NonNull

/-!
Tests that rule out `None`. Such a test is made by `and` of tests one of which is a comparison with a link that sets an
operand against `None` by `is not`. Where the test holds, every link of this comparison does, so an operand of the link
has another value than `None`; and no test without such a link is taken for one that rules out `None`.
-/

namespace TypingAudit.Rule

open Ast
open Source (Position)

section Links

def links : Expr → List (Expr × CmpOp × Expr)
  | .compare _ left ops comparators => (left :: comparators).zip (ops.zip comparators)
  | _ => []

def NotNoneLink (operand : Expr) : Expr × CmpOp × Expr → Prop
  | (left, op, right) =>
    op = .isNot ∧ (isNone left = true ∧ operand = right ∨ isNone right = true ∧ operand = left)

/-- The operand is set against `None` by a link of a comparison, which is one of the tests that the whole test is made
of by `and`. -/
def SetAgainstNone (test operand : Expr) : Prop :=
  ∃ e ∈ parts .and test, ∃ link ∈ links e, NotNoneLink operand link

theorem exists_notNoneLink_iff (left : Expr) (op : CmpOp) (right : Expr) :
    (∃ operand, NotNoneLink operand (left, op, right)) ↔ (op == .isNot && (isNone left || isNone right)) = true := by
  rw [Bool.and_eq_true, Bool.or_eq_true, beq_iff_eq]
  constructor
  · rintro ⟨operand, isNot, ⟨onLeft, -⟩ | ⟨onRight, -⟩⟩
    · exact ⟨isNot, .inl onLeft⟩
    · exact ⟨isNot, .inr onRight⟩
  · rintro ⟨isNot, onLeft | onRight⟩
    · exact ⟨right, isNot, .inl ⟨onLeft, rfl⟩⟩
    · exact ⟨left, isNot, .inr ⟨onRight, rfl⟩⟩

theorem hasNotNoneLink_iff (left : Expr) (ops : List CmpOp) (comparators : List Expr) :
    hasNotNoneLink left ops comparators = true ↔
      ∃ operand, ∃ link ∈ (left :: comparators).zip (ops.zip comparators), NotNoneLink operand link := by
  induction comparators generalizing left ops with
  | nil => cases ops <;> simp [hasNotNoneLink]
  | cons right rights ih =>
    cases ops with
    | nil => simp [hasNotNoneLink]
    | cons op ops =>
      rw [hasNotNoneLink, Bool.or_eq_true, ← exists_notNoneLink_iff, ih right ops, ← exists_or]
      simp only [List.zip_cons_cons, List.mem_cons, exists_eq_or_imp]

end Links

section Search

def saysNotNone : Expr → Bool
  | .compare _ left ops comparators => hasNotNoneLink left ops comparators
  | _ => false

theorem saysNotNone_iff (e : Expr) :
    saysNotNone e = true ↔ ∃ operand, ∃ link ∈ links e, NotNoneLink operand link := by
  unfold saysNotNone links
  split
  · exact hasNotNoneLink_iff _ _ _
  · simp

theorem rulesOutNone_of_single {test : Expr} (single : ∀ pos values, test ≠ .boolOp pos .and values) :
    rulesOutNone test = saysNotNone test := by
  unfold rulesOutNone saysNotNone
  split
  next pos values => exact absurd rfl (single pos values)
  next => rfl
  next noComparison =>
    split
    next => exact absurd rfl (noComparison _ _ _ _)
    next => rfl

mutual

/-- The verdict on a test rests on the tests that it is made of by `and`. -/
theorem rulesOutNone_iff_parts : (test : Expr) →
    (rulesOutNone test = true ↔ ∃ e ∈ parts .and test, saysNotNone e = true)
  | test => by
    rcases parts_cases .and test with ⟨pos, values, rfl⟩ | ⟨single, alone⟩
    · rw [rulesOutNone, parts_boolOp]
      exact assertsNotNoneAny_iff_parts values
    · rw [alone, rulesOutNone_of_single single]
      simp

theorem assertsNotNoneAny_iff_parts : (values : List Expr) →
    (assertsNotNoneAny values = true ↔ ∃ e ∈ allParts .and values, saysNotNone e = true)
  | [] => by simp [assertsNotNoneAny, allParts]
  | e :: es => by
    rw [assertsNotNoneAny, allParts, Bool.or_eq_true, rulesOutNone_iff_parts e, assertsNotNoneAny_iff_parts es,
      ← exists_or]
    simp only [List.mem_append, or_and_right]

end

theorem rulesOutNone_iff (test : Expr) : rulesOutNone test = true ↔ ∃ operand, SetAgainstNone test operand := by
  rw [rulesOutNone_iff_parts]
  constructor
  · rintro ⟨e, part, told⟩
    obtain ⟨operand, link, member, sets⟩ := (saysNotNone_iff e).1 told
    exact ⟨operand, e, part, link, member, sets⟩
  · rintro ⟨operand, e, part, link, member, sets⟩
    exact ⟨e, part, (saysNotNone_iff e).2 ⟨operand, link, member, sets⟩⟩

end Search

section Values

/-- Values of the operands of tests, and what the links come to for them: `is not` tells two values apart, all other
operators may answer as they like. -/
structure OperandValues (Value : Type) extends Valuation where
  value : Expr → Value
  none : Value
  value_of_isNone : ∀ e, isNone e = true → value e = none
  link_isNot : ∀ left right, link left .isNot right = true ↔ value left ≠ value right

variable {Value : Type} (v : OperandValues Value)

theorem link_of_truth {v : Valuation} {left : Expr} {ops : List CmpOp} {comparators : List Expr}
    (holds : (evaluateLinks v left (ops.zip comparators)).truth = true) :
    ∀ link ∈ (left :: comparators).zip (ops.zip comparators), v.link link.1 link.2.1 link.2.2 = true := by
  induction comparators generalizing left ops with
  | nil => cases ops <;> simp
  | cons right rights ih =>
    cases ops with
    | nil => simp
    | cons op ops =>
      rw [List.zip_cons_cons, evaluateLinks] at holds
      by_cases linked : v.link left op right = true
      · rw [if_pos linked] at holds
        rw [List.zip_cons_cons, List.zip_cons_cons, List.forall_mem_cons]
        exact ⟨linked, ih holds⟩
      · rw [if_neg linked] at holds
        cases holds

theorem links_of_truth {v : Valuation} {e : Expr} {evaluation : Evaluation} (evaluated : evaluate v e = some evaluation)
    (holds : evaluation.truth = true) : ∀ link ∈ links e, v.link link.1 link.2.1 link.2.2 = true := by
  unfold links
  split
  · obtain ⟨-, truth, -⟩ := evaluate_compare evaluated
    rw [truth] at holds
    exact link_of_truth holds
  · exact List.forall_mem_nil _

theorem value_ne_none_of_link {operand : Expr} {link : Expr × CmpOp × Expr} (sets : NotNoneLink operand link)
    (holds : v.link link.1 link.2.1 link.2.2 = true) : v.value operand ≠ v.none := by
  obtain ⟨left, op, right⟩ := link
  obtain ⟨rfl, ⟨onLeft, rfl⟩ | ⟨onRight, rfl⟩⟩ := sets
  · rw [v.link_isNot, v.value_of_isNone left onLeft] at holds
    exact holds.symm
  · rwa [v.link_isNot, v.value_of_isNone right onRight] at holds

theorem value_ne_none {test operand : Expr} {evaluation : Evaluation}
    (evaluated : evaluate v.toValuation test = some evaluation) (holds : evaluation.truth = true)
    (sets : SetAgainstNone test operand) : v.value operand ≠ v.none := by
  obtain ⟨e, part, link, member, notNone⟩ := sets
  obtain ⟨inner, partEvaluated, partHolds, -⟩ := part_settles_alike test part evaluated holds
  exact value_ne_none_of_link v notNone (links_of_truth partEvaluated partHolds link member)

end Values

/-- A test is said to rule out `None` exactly when some operand is set against it. In every evaluation in which such a
test holds, an operand that is set against `None` has another value. -/
theorem none_ruled_out_iff (test : Expr) :
    (rulesOutNone test = true ↔ ∃ operand, SetAgainstNone test operand) ∧
      ∀ (Value : Type) (v : OperandValues Value),
        (comparesInPairs test = true → ∃ evaluation, evaluate v.toValuation test = some evaluation) ∧
          ∀ evaluation, rulesOutNone test = true → evaluate v.toValuation test = some evaluation →
            evaluation.truth = true → ∃ operand, SetAgainstNone test operand ∧ v.value operand ≠ v.none := by
  refine ⟨rulesOutNone_iff test, fun Value v => ⟨exists_evaluate v.toValuation test, ?_⟩⟩
  intro evaluation asserts evaluated holds
  obtain ⟨operand, sets⟩ := (rulesOutNone_iff test).1 asserts
  exact ⟨operand, sets, value_ne_none v evaluated holds sets⟩

def chainedAssertion : Expr :=
  .boolOp ⟨1, 7⟩ .and
    [.name ⟨1, 7⟩ "ready" .load,
      .boolOp ⟨1, 18⟩ .and
        [.compare ⟨1, 18⟩ (.name ⟨1, 18⟩ "low" .load) [.lt, .isNot]
            [.name ⟨1, 24⟩ "x" .load, .constant ⟨1, 33⟩ .none],
          .name ⟨1, 42⟩ "done" .load]]

def presentValues : OperandValues Bool where
  link left op right := op != .isNot || isNone left != isNone right
  whole _ := true
  value e := !isNone e
  none := false
  value_of_isNone e written := by rw [written]; rfl
  link_isNot left right := by cases isNone left <;> cases isNone right <;> decide

theorem chainedAssertion_rules_out :
    rulesOutNone chainedAssertion = true ∧
      ∃ evaluation, evaluate presentValues.toValuation chainedAssertion = some evaluation ∧ evaluation.truth = true ∧
        ∃ operand, SetAgainstNone chainedAssertion operand ∧ presentValues.value operand ≠ presentValues.none := by
  have asserts : rulesOutNone chainedAssertion = true := by decide +kernel
  obtain ⟨-, values⟩ := none_ruled_out_iff chainedAssertion
  obtain ⟨total, sound⟩ := values Bool presentValues
  obtain ⟨evaluation, evaluated⟩ := total (by decide +kernel)
  have holds : (evaluate presentValues.toValuation chainedAssertion).map (·.truth) = some true := by decide +kernel
  rw [evaluated] at holds
  have truth : evaluation.truth = true := Option.some.inj holds
  exact ⟨asserts, evaluation, evaluated, truth, sound evaluation asserts evaluated truth⟩

end TypingAudit.Rule
