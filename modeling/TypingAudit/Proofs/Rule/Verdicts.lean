import TypingAudit.Rule.Catalogue

/-!
What the rules of the catalogue have in common. Each of them answers every node with silence, a report or a
failure to print, and the only one whose reports are errors is the rule on conversions.
-/

namespace TypingAudit.Rule

open Ast Typing

/-- The first fault that is met when a value is read: at its place, at its message, or at its fix. -/
def Foreign.fault? (value : Foreign) : Option ReadFault :=
  match value.place, value.message, value.fix with
  | .error fault, _, _ => some fault
  | .ok _, .error fault, _ => some fault
  | .ok _, .ok _, .error fault => some fault
  | .ok _, .ok _, .ok _ => none

namespace Verdict

def isForeign : Verdict → Bool
  | .foreign _ => true
  | _ => false

theorem ofPrinting_bind {α : Type} {x : Except PrintError α} {f : α → Except PrintError Verdict}
    (each : ∀ a, (ofPrinting (f a)).isForeign = false) : (ofPrinting (x >>= f)).isForeign = false := by
  cases x with
  | error e => rfl
  | ok a => exact each a

theorem ofPrinting_text {x : Except PrintError String} (message : String → String) (fix : String) :
    (ofPrinting do
      let text ← x
      return matched (message text) fix).isForeign = false :=
  ofPrinting_bind fun _ => rfl

end Verdict

open Verdict

theorem judgeType_isForeign (what name : String) (c : Context) (facts : TypeFacts) :
    (ofPrinting (judgeType what name c facts)).isForeign = false := by
  unfold judgeType
  refine ofPrinting_bind fun type => ?_
  split
  · rfl
  · rfl

theorem unlessSpelled_isForeign (typeHint : Option Expr) (what name : String) (c : Context)
    (facts : TypeFacts) :
    (ofPrinting do
      if ← spellsDynamic? typeHint then return .silent
      judgeType what name c facts).isForeign = false := by
  refine ofPrinting_bind fun spelled => ?_
  split
  · rfl
  · exact judgeType_isForeign what name c facts

theorem judgeDynamicParameter_isForeign (c : Context) (facts : TypeFacts) :
    (judgeDynamicParameter c facts).isForeign = false := by
  unfold judgeDynamicParameter
  split
  · split
    · rfl
    · split
      · rfl
      · exact unlessSpelled_isForeign _ _ _ c facts
  · rfl

theorem judgeDynamicField_isForeign (c : Context) (facts : TypeFacts) :
    (judgeDynamicField c facts).isForeign = false := by
  unfold judgeDynamicField
  split
  · rfl
  · split
    · rfl
    · exact unlessSpelled_isForeign _ _ _ c facts

theorem judgeCast_isForeign (stack : CallStack) (c : Context) (facts : TypeFacts) :
    (judgeCast stack c facts).isForeign = false := by
  unfold judgeCast
  split
  · split
    · exact ofPrinting_text _ _
    · rfl
  · rfl

theorem judgeNonNull_isForeign (stack : CallStack) (c : Context) (facts : TypeFacts) :
    (judgeNonNull stack c facts).isForeign = false := by
  unfold judgeNonNull
  split
  · split
    · exact ofPrinting_text _ _
    · rfl
  · rfl

theorem judgeCoercion_isForeign (stack : CallStack) (c : Context) (facts : TypeFacts) :
    (judgeCoercion stack c facts).isForeign = false := by
  unfold judgeCoercion
  split
  · split
    · rfl
    · split
      · rfl
      · exact ofPrinting_text _ _
  · rfl

theorem judgeParameter_isForeign (c : Context) (facts : TypeFacts) :
    (judgeParameter c facts).isForeign = false := by
  unfold judgeParameter
  split
  · split
    · rfl
    · split
      · rfl
      · split
        · rfl
        · rfl
  · rfl

theorem judgeReturn_isForeign (c : Context) (facts : TypeFacts) : (judgeReturn c facts).isForeign = false := by
  unfold judgeReturn
  split
  · split
    · rfl
    · rfl
  · rfl

theorem judgeSubscript_isForeign (stack : CallStack) (c : Context) (facts : TypeFacts) :
    (judgeSubscript stack c facts).isForeign = false := by
  unfold judgeSubscript
  split
  · split
    · rfl
    · split
      · rfl
      · refine ofPrinting_bind fun reached => ?_
        split
        · rfl
        · exact ofPrinting_text _ _
  · rfl

/-- No rule of the catalogue ever returns a value of its own in the place of a remark. -/
theorem catalogue_isForeign {stack : CallStack} {d : Check} (listed : d ∈ catalogue stack) (c : Context)
    (facts : TypeFacts) : (d.judge c facts).isForeign = false := by
  simp only [catalogue, List.mem_cons, List.not_mem_nil, or_false] at listed
  rcases listed with rfl | rfl | rfl | rfl | rfl | rfl | rfl | rfl
  · exact judgeDynamicParameter_isForeign c facts
  · exact judgeDynamicField_isForeign c facts
  · exact judgeCast_isForeign stack c facts
  · exact judgeNonNull_isForeign stack c facts
  · exact judgeCoercion_isForeign stack c facts
  · exact judgeParameter_isForeign c facts
  · exact judgeReturn_isForeign c facts
  · exact judgeSubscript_isForeign stack c facts

theorem label_mem_of_catalogue {stack : CallStack} {d : Check} (listed : d ∈ catalogue stack) :
    (d.severity, d.code) ∈ (catalogue .unbounded).map fun rule => (rule.severity, rule.code) := by
  have same : ((catalogue stack).map fun rule => (rule.severity, rule.code)) =
      (catalogue .unbounded).map fun rule => (rule.severity, rule.code) := rfl
  rw [← same]
  exact List.mem_map_of_mem listed

theorem severity_eq_error_iff {stack : CallStack} {d : Check} (listed : d ∈ catalogue stack) :
    d.severity = Audit.Severity.error ↔ d.code = Audit.Code.unsafeCoercion := by
  have each : ∀ label ∈ (catalogue .unbounded).map fun rule => (rule.severity, rule.code),
      label.1 = Audit.Severity.error ↔ label.2 = Audit.Code.unsafeCoercion := by decide
  exact each _ (label_mem_of_catalogue listed)

end TypingAudit.Rule
