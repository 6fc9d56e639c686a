import TypingAudit.Proofs.Rule.ShortCircuit

/-!
Tests that fail. A test is said to fail only once a container was asked about because of one of the alternatives it
is made of by `or`. Where this alternative is a negation, its failing indeed tells that the container was asked
about. Where it is a comparison, its failing tells so only if no link of another kind can be the one that fails.
-/

namespace TypingAudit.Rule

open Ast
open Source (Position)

def TakesLength (container e : Expr) : Prop :=
  ∃ pos namePos usage first others keywords,
    e = .call pos (.name namePos "len" usage) (first :: others) keywords ∧ first.unplaced = container.unplaced

/-- The event shows that the container holds something, whether it was asked by `in` or by `not in`, or takes its
length. -/
def Event.Answers (v : Valuation) (container : Expr) : Event → Prop
  | .value e => TakesLength container e
  | .link left op right =>
    right.unplaced = container.unplaced ∧
      ((op = .isIn ∧ v.link left op right = true) ∨ (op = .notIn ∧ v.link left op right = false))

def Answered (v : Valuation) (container : Expr) (events : List Event) : Prop :=
  ∃ event ∈ events, event.Answers v container

/-- However a test is evaluated, the container is answered for if the test fails. -/
def AnswersByFailing (container test : Expr) : Prop :=
  ∀ v, ∃ evaluation, evaluate v test = some evaluation ∧
    (evaluation.truth = false → Answered v container evaluation.events)

/-- Each link says that something is not in the container, as long as no operand has taken its length. -/
def LinksTell (container : Expr) : List (CmpOp × Expr) → Prop
  | [] => True
  | (op, right) :: links =>
    TakesLength container right ∨
      (op = .notIn ∧ right.unplaced = container.unplaced ∧ LinksTell container links)

/-- No comparison, or one that can fail only at a link that says that something is not in the container, or after
its length was taken. -/
def FailureTells (container : Expr) : Expr → Prop
  | .compare _ left ops comparators =>
    TakesLength container left ∨ LinksTell container (ops.zip comparators)
  | _ => True

section Answers

variable {v : Valuation} {container : Expr}

theorem Answered.mono {events more : List Event} (answered : Answered v container events) (included : events ⊆ more) :
    Answered v container more := by
  obtain ⟨event, happened, answers⟩ := answered
  exact ⟨event, included happened, answers⟩

theorem AskedAbout.answered {events : List Event} (asked : AskedAbout v container events) :
    Answered v container events := by
  obtain ⟨e, alike, ⟨left, linked, holds⟩ | ⟨pos, namePos, usage, others, keywords, called⟩⟩ := asked
  · exact ⟨_, linked, alike, .inl ⟨rfl, holds⟩⟩
  · exact ⟨_, called, pos, namePos, usage, e, others, keywords, rfl, alike⟩

theorem answered_of_takesLength {e : Expr} {events : List Event} (length : TakesLength container e)
    (evaluated : .value e ∈ events) : Answered v container events :=
  ⟨.value e, evaluated, length⟩

end Answers

section Comparisons

variable {container : Expr}

/-- A comparison that tells by failing stops, when it fails, at a link that answers for the container or after its
length was taken. -/
theorem answered_of_linksTell {v : Valuation} {left : Expr} {links : List (CmpOp × Expr)}
    (tell : LinksTell container links) (fails : (evaluateLinks v left links).truth = false) :
    Answered v container (evaluateLinks v left links).events := by
  induction links generalizing left with
  | nil => cases fails
  | cons link links ih =>
    obtain ⟨op, right⟩ := link
    rw [evaluateLinks] at fails ⊢
    by_cases linked : v.link left op right = true
    · rw [if_pos linked] at fails ⊢
      rcases tell with length | ⟨-, -, tell⟩
      · exact answered_of_takesLength length List.mem_cons_self
      · have later : Answered v container (evaluateLinks v right links).events := ih tell fails
        exact later.mono fun event happened => List.mem_cons_of_mem _ (List.mem_cons_of_mem _ happened)
    · rw [if_neg linked]
      rcases tell with length | ⟨isNotIn, alike, -⟩
      · exact answered_of_takesLength length List.mem_cons_self
      · refine ⟨.link left op right, by simp, alike, .inr ⟨isNotIn, ?_⟩⟩
        exact Bool.eq_false_iff.2 linked

open Classical in
noncomputable def nothingInside (container : Expr) : Valuation where
  link _ op right := decide (op = .notIn ∧ right.unplaced = container.unplaced)
  whole _ := false

theorem nothingInside_link_eq_true {left right : Expr} {op : CmpOp} :
    (nothingInside container).link left op right = true ↔ op = .notIn ∧ right.unplaced = container.unplaced := by
  simp only [nothingInside, decide_eq_true_eq]

theorem not_answers_link {left right : Expr} {op : CmpOp} :
    ¬(Event.link left op right).Answers (nothingInside container) container := by
  rintro ⟨alike, ⟨isIn, holds⟩ | ⟨isNotIn, fails⟩⟩
  · obtain ⟨isNotIn, -⟩ := nothingInside_link_eq_true.1 holds
    rw [isIn] at isNotIn
    cases isNotIn
  · have holds : (nothingInside container).link left op right = true :=
      nothingInside_link_eq_true.2 ⟨isNotIn, alike⟩
    rw [fails] at holds
    cases holds

/-- A comparison with a link of another kind fails at the first one, where nothing is inside the container, and
nothing that was done before answers for it. -/
theorem unanswered_of_not_linksTell (left : Expr) {links : List (CmpOp × Expr)} (silent : ¬LinksTell container links) :
    (evaluateLinks (nothingInside container) left links).truth = false ∧
      ¬Answered (nothingInside container) container (evaluateLinks (nothingInside container) left links).events := by
  induction links generalizing left with
  | nil => exact absurd trivial silent
  | cons link links ih =>
    obtain ⟨op, right⟩ := link
    obtain ⟨noLength, notTold⟩ := not_or.1 silent
    rw [evaluateLinks]
    by_cases linked : (nothingInside container).link left op right = true
    · rw [if_pos linked]
      obtain ⟨isNotIn, alike⟩ := nothingInside_link_eq_true.1 linked
      have later : ¬LinksTell container links := fun tell => notTold ⟨isNotIn, alike, tell⟩
      obtain ⟨fails, unanswered⟩ := ih right later
      refine ⟨fails, ?_⟩
      rintro ⟨event, happened, answers⟩
      rcases List.mem_cons.1 happened with rfl | happened
      · exact noLength answers
      · rcases List.mem_cons.1 happened with rfl | happened
        · exact not_answers_link answers
        · exact unanswered ⟨event, happened, answers⟩
    · rw [if_neg linked]
      refine ⟨rfl, ?_⟩
      rintro ⟨event, happened, answers⟩
      rcases List.mem_cons.1 happened with rfl | happened
      · exact noLength answers
      · rw [List.mem_singleton.1 happened] at answers
        exact not_answers_link answers

theorem answered_of_compare {v : Valuation} {pos : Position} {left : Expr} {ops : List CmpOp}
    {comparators : List Expr} {evaluation : Evaluation}
    (evaluated : evaluate v (.compare pos left ops comparators) = some evaluation)
    (fails : evaluation.truth = false) (tells : FailureTells container (.compare pos left ops comparators)) :
    Answered v container evaluation.events := by
  obtain ⟨-, truth, events⟩ := evaluate_compare evaluated
  rw [truth] at fails
  rw [events]
  rcases tells with length | tell
  · exact answered_of_takesLength length List.mem_cons_self
  · exact (answered_of_linksTell tell fails).mono (List.subset_cons_self _ _)

theorem failureTells_of_answers {pos : Position} {left : Expr} {ops : List CmpOp} {comparators : List Expr}
    (answers : AnswersByFailing container (.compare pos left ops comparators)) :
    FailureTells container (.compare pos left ops comparators) := by
  obtain ⟨evaluation, evaluated, answered⟩ := answers (nothingInside container)
  obtain ⟨-, truth, events⟩ := evaluate_compare evaluated
  rw [truth, events] at answered
  refine Classical.byContradiction fun silent => ?_
  obtain ⟨noLength, silent⟩ := not_or.1 silent
  obtain ⟨fails, unanswered⟩ := unanswered_of_not_linksTell left silent
  obtain ⟨event, happened, answers⟩ := answered fails
  rcases List.mem_cons.1 happened with rfl | happened
  · exact noLength answers
  · exact unanswered ⟨event, happened, answers⟩

end Comparisons

section Alternatives

variable {v : Valuation} {container : Expr}

theorem failsOnlyChecked_cases {test : Expr} (refuting : failsOnlyChecked container test = .ok true) :
    (∃ pos values, test = .boolOp pos .or values ∧ anyFailsOnlyChecked container values = .ok true) ∨
    (∃ pos operand, test = .unaryOp pos .not operand ∧ holdsOnlyChecked container operand = .ok true) ∨
    ∃ pos left ops comparators, test = .compare pos left ops comparators := by
  unfold failsOnlyChecked at refuting
  split at refuting
  · exact .inl ⟨_, _, rfl, refuting⟩
  · exact .inr (.inl ⟨_, _, rfl, refuting⟩)
  · exact .inr (.inr ⟨_, _, _, _, rfl⟩)
  · cases refuting

mutual

theorem exists_alternative : (test : Expr) → failsOnlyChecked container test = .ok true →
    ∃ e ∈ parts .or test, failsOnlyChecked container e = .ok true
  | test, refuting => by
    rcases failsOnlyChecked_cases refuting with
      ⟨pos, values, rfl, among⟩ | ⟨pos, operand, rfl, -⟩ | ⟨pos, left, ops, comparators, rfl⟩
    · rw [parts_boolOp]
      exact exists_alternative_among values among
    · exact ⟨_, List.mem_singleton_self _, refuting⟩
    · exact ⟨_, List.mem_singleton_self _, refuting⟩

theorem exists_alternative_among : (values : List Expr) → anyFailsOnlyChecked container values = .ok true →
    ∃ e ∈ allParts .or values, failsOnlyChecked container e = .ok true
  | [], among => by cases among
  | value :: values, among => by
    rw [anyFailsOnlyChecked, orM_eq_ok_true_iff] at among
    rw [allParts]
    rcases among with here | ⟨-, later⟩
    · obtain ⟨e, member, refuting⟩ := exists_alternative value here
      exact ⟨e, List.mem_append_left _ member, refuting⟩
    · obtain ⟨e, member, refuting⟩ := exists_alternative_among values later
      exact ⟨e, List.mem_append_right _ member, refuting⟩

end

mutual

theorem ne_or_of_mem_parts : (test : Expr) → {e : Expr} → e ∈ parts .or test →
    ∀ pos values, e ≠ .boolOp pos .or values
  | test, e, member => by
    rcases parts_cases .or test with ⟨pos, values, rfl⟩ | ⟨single, alone⟩
    · rw [parts_boolOp] at member
      exact ne_or_of_mem_allParts values member
    · rw [alone, List.mem_singleton] at member
      rwa [member]

theorem ne_or_of_mem_allParts : (values : List Expr) → {e : Expr} → e ∈ allParts .or values →
    ∀ pos others, e ≠ .boolOp pos .or others
  | [], _, member => by cases member
  | value :: values, _, member => by
    rw [allParts] at member
    rcases List.mem_append.1 member with here | later
    · exact ne_or_of_mem_parts value here
    · exact ne_or_of_mem_allParts values later

end

theorem answered_of_negation {pos : Position} {operand : Expr} {evaluation : Evaluation}
    (guarded : holdsOnlyChecked container operand = .ok true)
    (evaluated : evaluate v (.unaryOp pos .not operand) = some evaluation) (fails : evaluation.truth = false) :
    Answered v container evaluation.events := by
  rw [evaluate, Option.map_eq_some_iff] at evaluated
  obtain ⟨inner, evaluated, rfl⟩ := evaluated
  have holds : inner.truth = true := by simpa using fails
  exact (askedAbout_of_holds operand guarded evaluated holds).answered

theorem answered_of_alternative {test e : Expr} {evaluation : Evaluation} (member : e ∈ parts .or test)
    (refuting : failsOnlyChecked container e = .ok true) (tells : FailureTells container e)
    (evaluated : evaluate v test = some evaluation) (fails : evaluation.truth = false) :
    Answered v container evaluation.events := by
  obtain ⟨part, partEvaluated, partFails, included⟩ := part_settles_alike test member evaluated fails
  have answered : Answered v container part.events := by
    rcases failsOnlyChecked_cases refuting with
      ⟨pos, values, disjunction, -⟩ | ⟨pos, operand, rfl, guarded⟩ | ⟨pos, left, ops, comparators, rfl⟩
    · exact absurd disjunction (ne_or_of_mem_parts test member pos values)
    · exact answered_of_negation guarded partEvaluated partFails
    · exact answered_of_compare partEvaluated partFails tells
  exact answered.mono included

theorem answersByFailing_of_alternative {test e : Expr} (paired : comparesInPairs test = true)
    (member : e ∈ parts .or test) (refuting : failsOnlyChecked container e = .ok true)
    (tells : FailureTells container e) : AnswersByFailing container test := by
  intro v
  obtain ⟨evaluation, evaluated⟩ := exists_evaluate v test paired
  exact ⟨evaluation, evaluated, answered_of_alternative member refuting tells evaluated⟩

end Alternatives

/-- The verdict that a test fails only once the container was asked about rests on alternatives of the test. The test
bears it out if one of these is a negation, or a comparison whose failing tells. For a comparison by itself this is
also needed: it bears the verdict out only if its failing tells. -/
theorem refuting_test_answers {container test : Expr} (paired : comparesInPairs test = true)
    (refuting : failsOnlyChecked container test = .ok true) :
    (∃ e ∈ parts .or test, failsOnlyChecked container e = .ok true) ∧
      (∀ e ∈ parts .or test, failsOnlyChecked container e = .ok true → FailureTells container e →
        AnswersByFailing container test) ∧
      ∀ pos left ops comparators, test = .compare pos left ops comparators →
        (AnswersByFailing container test ↔ FailureTells container test) := by
  refine ⟨exists_alternative test refuting, ?_, ?_⟩
  · intro e member verdict tells
    exact answersByFailing_of_alternative paired member verdict tells
  · rintro pos left ops comparators rfl
    constructor
    · exact failureTells_of_answers
    · intro tells
      exact answersByFailing_of_alternative paired (List.mem_singleton_self _) refuting tells

def mixedTest : Expr :=
  .boolOp ⟨1, 1⟩ .or
    [.compare ⟨1, 1⟩ (.name ⟨1, 1⟩ "low" .load) [.lt, .notIn]
        [.name ⟨1, 7⟩ "key" .load, .name ⟨1, 18⟩ "table" .load],
      .unaryOp ⟨1, 27⟩ .not
        (.boolOp ⟨1, 32⟩ .and
          [.name ⟨1, 32⟩ "ready" .load,
            .compare ⟨1, 42⟩ (.call ⟨1, 42⟩ (.name ⟨1, 42⟩ "len" .load) [.name ⟨1, 46⟩ "table" .load] [])
              [.gt] [.name ⟨1, 55⟩ "key" .load]])]

theorem mixedTest_answers :
    comparesInPairs mixedTest = true ∧
      failsOnlyChecked (.name ⟨2, 5⟩ "table" .load) mixedTest = .ok true ∧
      AnswersByFailing (.name ⟨2, 5⟩ "table" .load) mixedTest := by
  have paired : comparesInPairs mixedTest = true := by decide +kernel
  have refuting : failsOnlyChecked (.name ⟨2, 5⟩ "table" .load) mixedTest = .ok true := by decide +kernel
  obtain ⟨-, sound, -⟩ := refuting_test_answers paired refuting
  refine ⟨paired, refuting, sound _ (List.mem_cons_of_mem _ List.mem_cons_self) ?_ trivial⟩
  decide +kernel

def boundedTest : Expr :=
  .compare ⟨1, 1⟩ (.name ⟨1, 1⟩ "low" .load) [.lt, .notIn]
    [.name ⟨1, 7⟩ "key" .load, .name ⟨1, 18⟩ "table" .load]

theorem boundedTest_unanswered :
    failsOnlyChecked (.name ⟨2, 5⟩ "table" .load) boundedTest = .ok true ∧
      ∃ evaluation, evaluate ⟨fun _ _ _ => false, fun _ => false⟩ boundedTest = some evaluation ∧
        evaluation.truth = false ∧
        ¬Answered ⟨fun _ _ _ => false, fun _ => false⟩ (.name ⟨2, 5⟩ "table" .load) evaluation.events := by
  refine ⟨by decide +kernel, _, rfl, rfl, ?_⟩
  rintro ⟨event, happened, answers⟩
  rcases List.mem_cons.1 happened with rfl | happened
  · obtain ⟨pos, namePos, usage, first, others, keywords, call, -⟩ := answers
    cases call
  · rcases List.mem_cons.1 happened with rfl | happened
    · obtain ⟨pos, namePos, usage, first, others, keywords, call, -⟩ := answers
      cases call
    · rw [List.mem_singleton.1 happened] at answers
      obtain ⟨-, ⟨isIn, -⟩ | ⟨isNotIn, -⟩⟩ := answers
      · cases isIn
      · cases isNotIn

end TypingAudit.Rule
