import Mathlib.Data.List.Basic
import TypingAudit.Audit.RuleSet
import TypingAudit.Proofs.Ast.Preorder
import TypingAudit.Proofs.Computation
import TypingAudit.Proofs.Rule.Verdicts

/-!
What the audit of a tree finds. Unless a rule returns a value that cannot be read, the findings are those of the
nodes in the order of the tree, and at each node those of the rules in the order of the set; every finding
bears the code and severity of the rule that made it. Otherwise the first fault of this order ends the audit.
-/

namespace TypingAudit.Audit

open Ast Typing Rule

namespace Contribution

def found? : Contribution → Option Finding
  | .finding found => some found
  | _ => none

def fault? : Contribution → Option ReadFault
  | .unreadable fault => some fault
  | _ => none

end Contribution

open Contribution

def findingAt? (unitPath : String) (facts : TypeFacts) (c : Context) (d : Check) : Option Finding :=
  if d.applies c.node then (Contribution.of d unitPath facts c).found? else none

def faultAt? (facts : TypeFacts) (c : Context) (d : Check) : Option ReadFault :=
  if d.applies c.node then
    match d.judge c facts with
    | .foreign value => value.fault?
    | .silent | .report _ | .failed _ => none
  else none

section OneRule

variable {unitPath : String} {facts : TypeFacts} {c : Context} {d : Check}

theorem fault?_eq_none_iff {value : Foreign} :
    value.fault? = none ↔ ∃ found, readFinding d unitPath c value = .ok found := by
  obtain ⟨place, message, fix⟩ := value
  cases place <;> cases message <;> cases fix <;>
    simp [Foreign.fault?, readFinding, bind, Except.bind, pure, Except.pure]

theorem fault?_eq_some_iff {value : Foreign} {fault : ReadFault} :
    value.fault? = some fault ↔ readFinding d unitPath c value = .error fault := by
  obtain ⟨place, message, fix⟩ := value
  cases place <;> cases message <;> cases fix <;>
    simp [Foreign.fault?, readFinding, bind, Except.bind, pure, Except.pure]

theorem fault?_of (unitPath : String) :
    (Contribution.of d unitPath facts c).fault? =
      match d.judge c facts with
      | .foreign value => value.fault?
      | .silent | .report _ | .failed _ => none := by
  unfold Contribution.of
  cases d.judge c facts with
  | silent => rfl
  | report found => rfl
  | failed reason => rfl
  | foreign value =>
    dsimp only
    cases read : readFinding d unitPath c value with
    | ok found => exact (fault?_eq_none_iff.2 ⟨found, read⟩).symm
    | error fault => exact (fault?_eq_some_iff.2 read).symm

theorem findingAt?_of_report {found : Remark} (applies : d.applies c.node = true)
    (judged : d.judge c facts = .report found) :
    findingAt? unitPath facts c d = some (findingOf d unitPath c found) := by
  rw [findingAt?, if_pos applies, Contribution.of, judged]
  rfl

theorem findingAt?_of_silent (silent : d.judge c facts = .silent) : findingAt? unitPath facts c d = none := by
  unfold findingAt? Contribution.of
  rw [silent]
  exact ite_self _

/-- Whatever a rule returns, the finding that it becomes is stamped with the file and the rule. -/
theorem stamp_of_findingAt? {f : Finding} (made : findingAt? unitPath facts c d = some f) :
    f.unitPath = unitPath ∧ f.code = d.code ∧ f.severity = d.severity := by
  unfold findingAt? Contribution.of at made
  split at made
  · cases judged : d.judge c facts with
    | silent =>
      rw [judged] at made
      cases made
    | failed reason =>
      rw [judged] at made
      cases made
    | report found =>
      rw [judged] at made
      cases made
      exact ⟨rfl, rfl, rfl⟩
    | foreign value =>
      simp only [judged] at made
      cases read : readFinding d unitPath c value with
      | error fault =>
        rw [read] at made
        cases made
      | ok found =>
        rw [read] at made
        cases made
        simp only [readFinding, bind_eq_ok_iff] at read
        obtain ⟨place, -, message, -, fix, -, whole⟩ := read
        cases whole
        exact ⟨rfl, rfl, rfl⟩
  · cases made

theorem findingAt?_eq_some_iff (native : (d.judge c facts).isForeign = false) {f : Finding} :
    findingAt? unitPath facts c d = some f ↔
      d.applies c.node = true ∧
        ∃ found, d.judge c facts = .report found ∧ findingOf d unitPath c found = f := by
  unfold findingAt? Contribution.of
  split
  · rename_i applies
    cases verdict : d.judge c facts with
    | report found => simp [found?, applies]
    | silent => simp [found?]
    | failed reason => simp [found?]
    | foreign value =>
      rw [verdict] at native
      cases native
  · rename_i passedOver
    simp [passedOver]

end OneRule

namespace RuleSet

theorem collect_value (unitPath : String) (cs : List Contribution) :
    (collect unitPath cs).value =
      match (cs.filterMap fault?).head? with
      | some fault => .error (.of unitPath fault)
      | none => .ok (cs.filterMap found?) := by
  induction cs with
  | nil => rfl
  | cons c cs ih =>
    cases c with
    | nothing => simp only [collect, ih, List.filterMap_cons, fault?, found?]
    | unreadable fault => simp [collect, fault?]
    | failure record => simp only [collect, Logged.value_bind, ih, List.filterMap_cons, fault?, found?]
    | finding found =>
      simp only [collect, Logged.value_bind, Logged.value_pure, ih, List.filterMap_cons, fault?, found?]
      cases (cs.filterMap fault?).head? <;> rfl

def findingsAt (s : RuleSet) (unitPath : String) (facts : TypeFacts) (c : Context) : List Finding :=
  s.checks.filterMap (findingAt? unitPath facts c)

theorem filterMap_contributions (s : RuleSet) (unitPath : String) (facts : TypeFacts)
    (contexts : List Context) :
    (s.contributions unitPath facts contexts).filterMap found? =
      contexts.flatMap (s.findingsAt unitPath facts) := by
  unfold contributions
  rw [List.filterMap_flatMap]
  congr 1
  funext c
  rw [findingsAt, List.filterMap_map, List.filterMap_filter]
  rfl

section Faults

variable (s : RuleSet) (unitPath : String) (facts : TypeFacts) (tree : NodeTree)

/-- The faults at reading what the rules return, node by node in the order of the tree and at each node in the order
of the rules. -/
def faults : List ReadFault := tree.inOrder.flatMap fun c => s.checks.filterMap (faultAt? facts c)

theorem filterMap_fault?_contributions :
    (s.contributions unitPath facts tree.inOrder).filterMap fault? = s.faults facts tree := by
  unfold contributions faults
  rw [List.filterMap_flatMap]
  congr 1
  funext c
  rw [List.filterMap_map, List.filterMap_filter]
  apply List.filterMap_congr
  intro d _
  rw [Function.comp_apply, fault?_of, faultAt?]

/-- The audit of a tree ends at the first fault, and comes to the findings of all rules when there is none. -/
theorem audit_value_eq :
    (s.audit unitPath (.tree tree) facts).value =
      match (s.faults facts tree).head? with
      | some fault => .error (.of unitPath fault)
      | none => .ok ⟨unitPath, tree.inOrder.flatMap (s.findingsAt unitPath facts)⟩ := by
  simp only [audit, Logged.value_bind, Logged.value_pure, collect_value, tree.contexts_eq_inOrder,
    filterMap_fault?_contributions, filterMap_contributions]
  cases (s.faults facts tree).head? <;> rfl

end Faults

def WellFormed (s : RuleSet) : Prop := ∀ d ∈ s.checks, ∀ c facts, faultAt? facts c d = none

/-- No rule of the set ever returns a value of its own in the place of a remark. -/
def IsNative (s : RuleSet) : Prop := ∀ d ∈ s.checks, ∀ c facts, (d.judge c facts).isForeign = false

theorem IsNative.wellFormed {s : RuleSet} (native : s.IsNative) : s.WellFormed := by
  intro d listed c facts
  have own := native d listed c facts
  unfold faultAt?
  cases judged : d.judge c facts with
  | foreign value =>
    rw [judged] at own
    cases own
  | silent => exact ite_self _
  | report found => exact ite_self _
  | failed reason => exact ite_self _

theorem isNative_of_catalogue {s : RuleSet} {stack : CallStack} (listed : ∀ d ∈ s.checks, d ∈ catalogue stack) :
    s.IsNative :=
  fun d member c facts => catalogue_isForeign (listed d member) c facts

theorem standardOn_listed (stack : CallStack) (disabled : List String) :
    ∀ d ∈ (standardOn stack disabled).checks, d ∈ catalogue stack := by
  intro d member
  exact (List.mem_filter.1 member).1

theorem isNative_standard (disabled : List String) : (standard disabled).IsNative :=
  isNative_of_catalogue (standardOn_listed .unbounded disabled)

theorem audit_value {s : RuleSet} (wellFormed : s.WellFormed) (unitPath : String) (tree : NodeTree)
    (facts : TypeFacts) :
    (s.audit unitPath (.tree tree) facts).value =
      .ok ⟨unitPath, tree.inOrder.flatMap (s.findingsAt unitPath facts)⟩ := by
  have none : s.faults facts tree = [] := by
    rw [faults, List.flatMap_eq_nil_iff]
    intro c _
    rw [List.filterMap_eq_nil_iff]
    intro d listed
    exact wellFormed d listed c facts
  rw [audit_value_eq, none]
  rfl

theorem of_mem_findingsAt {s : RuleSet} {unitPath : String} {facts : TypeFacts} {c : Context} {f : Finding}
    (found : f ∈ s.findingsAt unitPath facts c) :
    f.unitPath = unitPath ∧ ∃ d ∈ s.checks, f.code = d.code ∧ f.severity = d.severity := by
  obtain ⟨d, listed, made⟩ := List.mem_filterMap.1 found
  obtain ⟨path, stamped⟩ := stamp_of_findingAt? made
  exact ⟨path, d, listed, stamped⟩

theorem filter_findingsAt (s : RuleSet) (kept : String → Bool) (unitPath : String)
    (facts : TypeFacts) (c : Context) :
    (s.findingsAt unitPath facts c).filter (fun f => kept f.code) =
      (RuleSet.mk (s.checks.filter fun d => kept d.code)).findingsAt unitPath facts c := by
  rw [findingsAt, findingsAt, List.filter_filterMap, List.filterMap_filter]
  apply List.filterMap_congr
  intro d _
  cases made : findingAt? unitPath facts c d with
  | none => simp
  | some f =>
    obtain ⟨-, code, -⟩ := stamp_of_findingAt? made
    by_cases chosen : kept d.code = true <;> simp [code, chosen]

section Codes

variable {s : RuleSet} {code : String} (unitPath : String) (facts : TypeFacts)

theorem filter_findingsAt_of_only {d : Check} (only : s.checks.filter (fun e => e.code == code) = [d])
    (c : Context) :
    (s.findingsAt unitPath facts c).filter (fun f => f.code == code) = (findingAt? unitPath facts c d).toList := by
  rw [filter_findingsAt s (fun used => used == code), only, findingsAt, List.filterMap_cons, List.filterMap_nil]
  cases findingAt? unitPath facts c d <;> rfl

theorem filter_flatMap_findingsAt {d : Check} (only : s.checks.filter (fun e => e.code == code) = [d])
    (places : List Context) :
    (places.flatMap (s.findingsAt unitPath facts)).filter (fun f => f.code == code) =
      places.filterMap fun c => findingAt? unitPath facts c d := by
  rw [List.filter_flatMap, List.filterMap_eq_flatMap_toList]
  congr 1
  funext c
  exact filter_findingsAt_of_only unitPath facts only c

def Reports (s : RuleSet) (unitPath : String) (facts : TypeFacts) (code : String) (c : Context) : Prop :=
  ∃ f ∈ s.findingsAt unitPath facts c, f.code = code

theorem reports_iff (native : s.IsNative) {c : Context} :
    s.Reports unitPath facts code c ↔
      ∃ d ∈ s.checks, d.code = code ∧ d.applies c.node = true ∧ ∃ found, d.judge c facts = .report found := by
  constructor
  · rintro ⟨f, found, rfl⟩
    obtain ⟨d, listed, made⟩ := List.mem_filterMap.1 found
    obtain ⟨applies, remark, judged, rfl⟩ := (findingAt?_eq_some_iff (native d listed c facts)).1 made
    exact ⟨d, listed, rfl, applies, remark, judged⟩
  · rintro ⟨d, listed, rfl, applies, remark, judged⟩
    refine ⟨findingOf d unitPath c remark, ?_, rfl⟩
    exact List.mem_filterMap.2 ⟨d, listed, findingAt?_of_report applies judged⟩

/-- Where one rule has a code to itself, it is this rule that reports under the code. -/
theorem reports_iff_of_only (native : s.IsNative) {d : Check}
    (only : s.checks.filter (fun e => e.code == code) = [d]) {c : Context} :
    s.Reports unitPath facts code c ↔ d.applies c.node = true ∧ ∃ found, d.judge c facts = .report found := by
  have chosen : ∀ e, e ∈ s.checks ∧ e.code = code ↔ e = d := by
    intro e
    have kept : e ∈ s.checks.filter (fun e => e.code == code) ↔ e ∈ [d] := by rw [only]
    rwa [List.mem_filter, beq_iff_eq, List.mem_singleton] at kept
  rw [reports_iff unitPath facts native]
  constructor
  · rintro ⟨e, listed, same, judged⟩
    rwa [(chosen e).1 ⟨listed, same⟩] at judged
  · intro judged
    obtain ⟨listed, same⟩ := (chosen d).2 rfl
    exact ⟨d, listed, same, judged⟩

end Codes

theorem standard_audit (unitPath : String) (tree : NodeTree) (facts : TypeFacts) :
    ((standard []).audit unitPath (.tree tree) facts).value =
      .ok ⟨unitPath, tree.inOrder.flatMap ((standard []).findingsAt unitPath facts)⟩ :=
  audit_value (isNative_standard []).wellFormed unitPath tree facts

end RuleSet

end TypingAudit.Audit
