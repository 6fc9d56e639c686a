import Mathlib.Data.List.Basic
import TypingAudit.Proofs.Ast.Likeness
import TypingAudit.Proofs.Computation
import TypingAudit.Rule.Guard

/-!
Tests as they are evaluated. The operands of `and` and `or` are gone through from the left until the answer is
settled, and the links of a comparison until one does not hold; all that happens on the way is recorded. A test
that is said to hold only once a container was asked about indeed asks about it whenever it holds.
-/

namespace TypingAudit.Rule

open Ast
open Source (Position)

/-- What the form of a test leaves open: whether two operands compare, and whether an expression that is no test
in itself counts as true. -/
structure Valuation where
  link : Expr → CmpOp → Expr → Bool
  whole : Expr → Bool

inductive Event where
  /-- An expression was evaluated. -/
  | value (e : Expr)
  /-- An operand of a comparison was compared with the next one. -/
  | link (left : Expr) (op : CmpOp) (right : Expr)

/-- What a test came to, and what was done on the way, in its order. -/
structure Evaluation where
  truth : Bool
  events : List Event

def evaluateLinks (v : Valuation) : Expr → List (CmpOp × Expr) → Evaluation
  | _, [] => ⟨true, []⟩
  | left, (op, right) :: links =>
    if v.link left op right then
      let rest := evaluateLinks v right links
      ⟨rest.truth, .value right :: .link left op right :: rest.events⟩
    else ⟨false, [.value right, .link left op right]⟩

mutual

/-- The evaluation of a test. What has not one operator for each operand on its right is no comparison, and has no
evaluation. -/
def evaluate (v : Valuation) : Expr → Option Evaluation
  | .boolOp _ op values => evaluateOperands v op values
  | .unaryOp _ .not operand => (evaluate v operand).map fun inner => ⟨!inner.truth, inner.events⟩
  | .compare _ left ops comparators =>
    if ops.length = comparators.length then
      let rest := evaluateLinks v left (ops.zip comparators)
      some ⟨rest.truth, .value left :: rest.events⟩
    else none
  | e => some ⟨v.whole e, [.value e]⟩

/-- The operands of `and` up to the first that does not hold, or those of `or` up to the first that does. -/
def evaluateOperands (v : Valuation) (op : BoolOp) : List Expr → Option Evaluation
  | [] => some ⟨op == .and, []⟩
  | e :: es =>
    (evaluate v e).bind fun first =>
      if first.truth = (op == .and) then
        (evaluateOperands v op es).map fun rest => ⟨rest.truth, first.events ++ rest.events⟩
      else some first

end

mutual

/-- Every comparison that the evaluation of a test may come to has an operator for each operand on its right. -/
def comparesInPairs : Expr → Bool
  | .boolOp _ _ values => allCompareInPairs values
  | .unaryOp _ .not operand => comparesInPairs operand
  | .compare _ _ ops comparators => ops.length == comparators.length
  | _ => true

def allCompareInPairs : List Expr → Bool
  | [] => true
  | e :: es => comparesInPairs e && allCompareInPairs es

end

def AskedAbout (v : Valuation) (container : Expr) (events : List Event) : Prop :=
  ∃ e : Expr, e.unplaced = container.unplaced ∧
    ((∃ left, .link left .isIn e ∈ events ∧ v.link left .isIn e = true) ∨
      ∃ pos namePos usage others keywords,
        .value (.call pos (.name namePos "len" usage) (e :: others) keywords) ∈ events)

section Steps

variable {v : Valuation} {container : Expr}

theorem AskedAbout.mono {events more : List Event} (asked : AskedAbout v container events) (included : events ⊆ more) :
    AskedAbout v container more := by
  obtain ⟨e, alike, ⟨left, linked, holds⟩ | ⟨pos, namePos, usage, others, keywords, called⟩⟩ := asked
  · exact ⟨e, alike, .inl ⟨left, included linked, holds⟩⟩
  · exact ⟨e, alike, .inr ⟨pos, namePos, usage, others, keywords, included called⟩⟩

theorem evaluateLinks_of_truth {left right : Expr} {op : CmpOp} {links : List (CmpOp × Expr)}
    (holds : (evaluateLinks v left links).truth = true) (member : (op, right) ∈ links) :
    .value right ∈ (evaluateLinks v left links).events ∧
      ∃ before, .link before op right ∈ (evaluateLinks v left links).events ∧ v.link before op right = true := by
  induction links generalizing left with
  | nil => cases member
  | cons first links ih =>
    obtain ⟨firstOp, firstRight⟩ := first
    rw [evaluateLinks] at holds ⊢
    by_cases linked : v.link left firstOp firstRight = true
    · rw [if_pos linked] at holds ⊢
      rcases List.mem_cons.1 member with same | later
      · cases same
        exact ⟨by simp, left, by simp, linked⟩
      · obtain ⟨evaluated, before, compared, held⟩ := ih holds later
        exact ⟨by simp [evaluated], before, by simp [compared], held⟩
    · rw [if_neg linked] at holds
      cases holds

/-- An `and` that holds, or an `or` that does not, has evaluated its first operand and then the others, and all of them
come to the same. -/
theorem evaluateOperands_cons {op : BoolOp} {e : Expr} {es : List Expr} {evaluation : Evaluation}
    (evaluated : evaluateOperands v op (e :: es) = some evaluation) (passed : evaluation.truth = (op == .and)) :
    ∃ first rest, evaluate v e = some first ∧ first.truth = (op == .and) ∧
      evaluateOperands v op es = some rest ∧ rest.truth = (op == .and) ∧
      evaluation.events = first.events ++ rest.events := by
  rw [evaluateOperands, Option.bind_eq_some_iff] at evaluated
  obtain ⟨first, begun, evaluated⟩ := evaluated
  by_cases unsettled : first.truth = (op == .and)
  · rw [if_pos unsettled, Option.map_eq_some_iff] at evaluated
    obtain ⟨rest, continued, rfl⟩ := evaluated
    exact ⟨first, rest, begun, unsettled, continued, passed, rfl⟩
  · rw [if_neg unsettled] at evaluated
    cases evaluated
    exact absurd passed unsettled

theorem same_of_isAlike {e : Expr} (alike : isAlike container e = .ok true) : e.same container = true := by
  obtain ⟨-, -, same⟩ := bind_eq_ok_iff.1 alike
  exact Except.ok.inj same

theorem isLengthOf_eq_true {e : Expr} (length : isLengthOf container e = .ok true) :
    ∃ pos namePos usage first others keywords,
      e = .call pos (.name namePos "len" usage) (first :: others) keywords ∧ first.same container = true := by
  unfold isLengthOf at length
  split at length
  · exact ⟨_, _, _, _, _, _, rfl, same_of_isAlike length⟩
  · cases length

theorem askedAbout_of_length {e : Expr} {events : List Event} (length : isLengthOf container e = .ok true)
    (evaluated : .value e ∈ events) : AskedAbout v container events := by
  obtain ⟨pos, namePos, usage, first, others, keywords, rfl, alike⟩ := isLengthOf_eq_true length
  exact ⟨first, Expr.unplaced_of_same alike, .inr ⟨pos, namePos, usage, others, keywords, evaluated⟩⟩

theorem holdsOnlyChecked_cases {test : Expr} (guarded : holdsOnlyChecked container test = .ok true) :
    (∃ pos values, test = .boolOp pos .and values ∧ anyHoldsOnlyChecked container values = .ok true) ∨
    (∃ pos left ops comparators, test = .compare pos left ops comparators ∧
      (hasMembership .isIn container ops comparators = .ok true ∨
        (left :: comparators).anyM (isLengthOf container) = .ok true)) ∨
    isLengthOf container test = .ok true := by
  unfold holdsOnlyChecked at guarded
  split at guarded
  · obtain ⟨-, -, among⟩ := bind_eq_ok_iff.1 guarded
    exact .inl ⟨_, _, rfl, among⟩
  · obtain ⟨-, -, asks⟩ := bind_eq_ok_iff.1 guarded
    refine .inr (.inl ⟨_, _, _, _, rfl, ?_⟩)
    rcases orM_eq_ok_true_iff.1 asks with membership | ⟨-, length⟩
    · exact .inl membership
    · exact .inr length
  · obtain ⟨-, -, length⟩ := bind_eq_ok_iff.1 guarded
    exact .inr (.inr length)

theorem of_hasMembership {op : CmpOp} {ops : List CmpOp} {comparators : List Expr}
    (membership : hasMembership op container ops comparators = .ok true) :
    ∃ right, (op, right) ∈ ops.zip comparators ∧ right.same container = true := by
  obtain ⟨⟨used, right⟩, link, found⟩ := exists_of_anyM membership
  dsimp only at found
  split at found
  next same =>
    rw [beq_iff_eq] at same
    exact ⟨right, same ▸ link, same_of_isAlike found⟩
  next => cases found

theorem evaluate_compare {pos : Position} {left : Expr} {ops : List CmpOp} {comparators : List Expr}
    {evaluation : Evaluation} (evaluated : evaluate v (.compare pos left ops comparators) = some evaluation) :
    ops.length = comparators.length ∧
      evaluation.truth = (evaluateLinks v left (ops.zip comparators)).truth ∧
      evaluation.events = .value left :: (evaluateLinks v left (ops.zip comparators)).events := by
  rw [evaluate] at evaluated
  by_cases paired : ops.length = comparators.length
  · rw [if_pos paired] at evaluated
    cases evaluated
    exact ⟨paired, rfl, rfl⟩
  · rw [if_neg paired] at evaluated
    cases evaluated

theorem askedAbout_of_compare {pos : Position} {left : Expr} {ops : List CmpOp} {comparators : List Expr}
    {evaluation : Evaluation} (evaluated : evaluate v (.compare pos left ops comparators) = some evaluation)
    (holds : evaluation.truth = true)
    (asks : hasMembership .isIn container ops comparators = .ok true ∨
      (left :: comparators).anyM (isLengthOf container) = .ok true) :
    AskedAbout v container evaluation.events := by
  obtain ⟨paired, truth, events⟩ := evaluate_compare evaluated
  rw [truth] at holds
  rw [events]
  rcases asks with membership | length
  · obtain ⟨right, link, alike⟩ := of_hasMembership membership
    obtain ⟨-, before, compared, held⟩ := evaluateLinks_of_truth holds link
    exact ⟨right, Expr.unplaced_of_same alike, .inl ⟨before, List.mem_cons_of_mem _ compared, held⟩⟩
  · obtain ⟨operand, member, length⟩ := exists_of_anyM length
    refine askedAbout_of_length length ?_
    rcases List.mem_cons.1 member with rfl | member
    · exact List.mem_cons_self
    · -- an operand on the right stands in some link, as there is an operator for each
      have onRight : operand ∈ (ops.zip comparators).map Prod.snd := by
        rwa [List.map_snd_zip (Nat.le_of_eq paired.symm)]
      obtain ⟨⟨op, right⟩, link, rfl⟩ := List.mem_map.1 onRight
      exact List.mem_cons_of_mem _ (evaluateLinks_of_truth holds link).1

theorem evaluate_of_length {e : Expr} (length : isLengthOf container e = .ok true) :
    evaluate v e = some ⟨v.whole e, [.value e]⟩ := by
  obtain ⟨pos, namePos, usage, first, others, keywords, rfl, -⟩ := isLengthOf_eq_true length
  rw [evaluate] <;> intros <;> contradiction

end Steps

mutual

theorem askedAbout_of_holds {v : Valuation} {container : Expr} : (test : Expr) → {evaluation : Evaluation} →
    holdsOnlyChecked container test = .ok true → evaluate v test = some evaluation → evaluation.truth = true →
    AskedAbout v container evaluation.events
  | test, evaluation, guarded, evaluated, holds => by
    rcases holdsOnlyChecked_cases guarded with
      ⟨pos, values, rfl, among⟩ | ⟨pos, left, ops, comparators, rfl, asks⟩ | length
    · rw [evaluate] at evaluated
      exact askedAbout_of_all_hold values among evaluated holds
    · exact askedAbout_of_compare evaluated holds asks
    · rw [evaluate_of_length length] at evaluated
      cases evaluated
      exact askedAbout_of_length length List.mem_cons_self

theorem askedAbout_of_all_hold {v : Valuation} {container : Expr} : (values : List Expr) →
    {evaluation : Evaluation} → anyHoldsOnlyChecked container values = .ok true →
    evaluateOperands v .and values = some evaluation → evaluation.truth = true →
    AskedAbout v container evaluation.events
  | [], _, guarded, _, _ => by cases guarded
  | e :: es, evaluation, guarded, evaluated, holds => by
    obtain ⟨first, rest, begun, firstHolds, continued, restHolds, events⟩ :=
      evaluateOperands_cons evaluated holds
    rw [events]
    rw [anyHoldsOnlyChecked, orM_eq_ok_true_iff] at guarded
    rcases guarded with here | ⟨-, later⟩
    · exact (askedAbout_of_holds e here begun firstHolds).mono (List.subset_append_left _ _)
    · exact (askedAbout_of_all_hold es later continued restHolds).mono (List.subset_append_right _ _)

end

mutual

theorem exists_evaluate (v : Valuation) : (test : Expr) → comparesInPairs test = true →
    ∃ evaluation, evaluate v test = some evaluation
  | test, paired => by
    unfold evaluate
    split
    next pos op values =>
      rw [comparesInPairs] at paired
      exact exists_evaluateOperands v op values paired
    next pos operand =>
      rw [comparesInPairs] at paired
      obtain ⟨inner, evaluated⟩ := exists_evaluate v operand paired
      exact ⟨_, by rw [evaluated]; rfl⟩
    next pos left ops comparators =>
      rw [comparesInPairs, beq_iff_eq] at paired
      exact ⟨_, if_pos paired⟩
    next => exact ⟨_, rfl⟩

theorem exists_evaluateOperands (v : Valuation) (op : BoolOp) : (values : List Expr) →
    allCompareInPairs values = true → ∃ evaluation, evaluateOperands v op values = some evaluation
  | [], _ => ⟨_, by rw [evaluateOperands]⟩
  | e :: es, paired => by
    rw [allCompareInPairs, Bool.and_eq_true] at paired
    obtain ⟨first, begun⟩ := exists_evaluate v e paired.1
    obtain ⟨rest, continued⟩ := exists_evaluateOperands v op es paired.2
    rw [evaluateOperands, begun, continued, Option.bind_some]
    by_cases unsettled : first.truth = (op == .and)
    · exact ⟨_, by rw [if_pos unsettled]; rfl⟩
    · exact ⟨_, by rw [if_neg unsettled]⟩

end

section Parts

mutual

/-- The tests that a test is made of by one of the two operators, at any depth. -/
def parts (op : BoolOp) : Expr → List Expr
  | .boolOp pos used values => if used = op then allParts op values else [.boolOp pos used values]
  | e => [e]

def allParts (op : BoolOp) : List Expr → List Expr
  | [] => []
  | e :: es => parts op e ++ allParts op es

end

theorem parts_boolOp (op : BoolOp) (pos : Position) (values : List Expr) :
    parts op (.boolOp pos op values) = allParts op values := by
  rw [parts, if_pos rfl]

theorem parts_cases (op : BoolOp) (test : Expr) :
    (∃ pos values, test = .boolOp pos op values) ∨
      (∀ pos values, test ≠ .boolOp pos op values) ∧ parts op test = [test] := by
  unfold parts
  split
  next pos used values =>
    by_cases same : used = op
    · exact .inl ⟨pos, values, by rw [same]⟩
    · refine .inr ⟨?_, if_neg same⟩
      rintro otherPos others alike
      cases alike
      exact same rfl
  next single =>
    refine .inr ⟨?_, rfl⟩
    intro pos values alike
    exact single pos op values alike

variable {v : Valuation} {op : BoolOp}

mutual

theorem part_settles_alike : (test : Expr) → {e : Expr} → {evaluation : Evaluation} → e ∈ parts op test →
    evaluate v test = some evaluation → evaluation.truth = (op == .and) →
    ∃ part, evaluate v e = some part ∧ part.truth = (op == .and) ∧ part.events ⊆ evaluation.events
  | test, e, evaluation, member, evaluated, passed => by
    rcases parts_cases op test with ⟨pos, values, rfl⟩ | ⟨-, alone⟩
    · rw [parts_boolOp] at member
      rw [evaluate] at evaluated
      exact part_settles_among values member evaluated passed
    · rw [alone, List.mem_singleton] at member
      rw [member]
      exact ⟨evaluation, evaluated, passed, List.Subset.refl _⟩

theorem part_settles_among : (values : List Expr) → {e : Expr} → {evaluation : Evaluation} →
    e ∈ allParts op values → evaluateOperands v op values = some evaluation → evaluation.truth = (op == .and) →
    ∃ part, evaluate v e = some part ∧ part.truth = (op == .and) ∧ part.events ⊆ evaluation.events
  | [], _, _, member, _, _ => by cases member
  | value :: values, e, evaluation, member, evaluated, passed => by
    obtain ⟨first, rest, begun, firstPassed, continued, restPassed, events⟩ := evaluateOperands_cons evaluated passed
    rw [events]
    rw [allParts] at member
    rcases List.mem_append.1 member with here | later
    · obtain ⟨part, evaluated, settled, included⟩ := part_settles_alike value here begun firstPassed
      exact ⟨part, evaluated, settled, List.Subset.trans included (List.subset_append_left _ _)⟩
    · obtain ⟨part, evaluated, settled, included⟩ := part_settles_among values later continued restPassed
      exact ⟨part, evaluated, settled, List.Subset.trans included (List.subset_append_right _ _)⟩

end

end Parts

/-- Where a test holds that can hold only after the container was asked about, the container was found to hold
something or its length was taken. As long as its comparisons are in pairs, the test has an evaluation. -/
theorem guarded_test_asks {container test : Expr} (guarded : holdsOnlyChecked container test = .ok true)
    (v : Valuation) :
    (comparesInPairs test = true → ∃ evaluation, evaluate v test = some evaluation) ∧
      ∀ evaluation, evaluate v test = some evaluation → evaluation.truth = true →
        AskedAbout v container evaluation.events :=
  ⟨exists_evaluate v test, fun _ evaluated holds => askedAbout_of_holds test guarded evaluated holds⟩

def chainedTest : Expr :=
  .boolOp ⟨1, 3⟩ .and
    [.name ⟨1, 3⟩ "ready" .load,
      .boolOp ⟨1, 14⟩ .and
        [.compare ⟨1, 14⟩ (.name ⟨1, 14⟩ "first" .load) [.ltE, .isIn]
            [.name ⟨1, 23⟩ "key" .load, .name ⟨1, 30⟩ "items" .load],
          .name ⟨1, 40⟩ "done" .load]]

theorem chainedTest_asks :
    holdsOnlyChecked (.name ⟨2, 4⟩ "items" .load) chainedTest = .ok true ∧
    ∃ evaluation, evaluate ⟨fun _ _ _ => true, fun _ => true⟩ chainedTest = some evaluation ∧
      evaluation.truth = true ∧
      AskedAbout ⟨fun _ _ _ => true, fun _ => true⟩ (.name ⟨2, 4⟩ "items" .load) evaluation.events := by
  have guarded : holdsOnlyChecked (.name ⟨2, 4⟩ "items" .load) chainedTest = .ok true := by decide +kernel
  obtain ⟨total, sound⟩ := guarded_test_asks guarded ⟨fun _ _ _ => true, fun _ => true⟩
  obtain ⟨evaluation, evaluated⟩ := total (by decide)
  have holds : (evaluate ⟨fun _ _ _ => true, fun _ => true⟩ chainedTest).map (·.truth) = some true := by decide
  rw [evaluated] at holds
  exact ⟨guarded, evaluation, evaluated, Option.some.inj holds, sound evaluation evaluated (Option.some.inj holds)⟩

end TypingAudit.Rule
