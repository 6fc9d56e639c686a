import TypingAudit.Proofs.Audit.Slots

/-!
Leaving rules out. A set of rules without those of some codes finds in a tree what the whole set finds there, less
the findings of these codes and in the same order. This holds of one file, of a batch of files and of what is left
of a batch after its failures.
-/

namespace TypingAudit.Audit

open Ast Rule Selection Storage Typing

def withoutCodes (codes : List String) (findings : List Finding) : List Finding :=
  findings.filter fun f => f.code ∉ codes

def UnitResult.without (r : UnitResult) (codes : List String) : UnitResult :=
  ⟨r.unitPath, withoutCodes codes r.findings⟩

def Outcome.without (outcome : Outcome) (codes : List String) : Outcome := outcome.map (·.without codes)

namespace RuleSet

variable (s : RuleSet) (codes : List String)

/-- Leaving out some codes and then others is leaving out both. -/
theorem without_without {first second both : List String} (union : ∀ code, code ∈ both ↔ code ∈ first ∨ code ∈ second) :
    (s.without first).without second = s.without both := by
  simp only [without, List.filter_filter, RuleSet.mk.injEq]
  apply List.filter_congr
  intro d _
  rw [Bool.eq_iff_iff]
  simp only [List.contains_eq_mem, Bool.and_eq_true, Bool.not_eq_true', decide_eq_false_iff_not, union, not_or]
  exact and_comm

theorem WellFormed.without {s : RuleSet} (wellFormed : s.WellFormed) (codes : List String) :
    (s.without codes).WellFormed :=
  fun d member => wellFormed d (List.mem_filter.1 member).1

theorem findingsAt_without (unitPath : String) (facts : TypeFacts) (c : Context) :
    (s.without codes).findingsAt unitPath facts c = withoutCodes codes (s.findingsAt unitPath facts c) := by
  have chosen := s.filter_findingsAt (fun code => !codes.contains code) unitPath facts c
  rw [withoutCodes, without, ← chosen]
  apply List.filter_congr
  intro f _
  simp

theorem audit_without {s : RuleSet} (wellFormed : s.WellFormed) (codes : List String) (unitPath : String)
    (tree : NodeTree) (facts : TypeFacts) :
    ((s.without codes).audit unitPath (.tree tree) facts).value =
      (s.audit unitPath (.tree tree) facts).value.map (·.without codes) := by
  rw [audit_value wellFormed, audit_value (wellFormed.without codes)]
  simp only [Except.map, UnitResult.without, withoutCodes, List.filter_flatMap]
  congr 3
  funext c
  exact findingsAt_without s codes unitPath facts c

end RuleSet

theorem treeOutcome_map (found : Except AuditFault UnitResult) (codes : List String) :
    treeOutcome (found.map (·.without codes)) = (treeOutcome found).map (Outcome.without · codes) := by
  cases found with
  | ok result => rfl
  | error fault => cases fault <;> rfl

theorem auditUnit_without {rules : RuleSet} (wellFormed : rules.WellFormed) (codes : List String) (unitPath : String)
    (content : Except Fault (List UInt8)) :
    (auditUnit (rules.without codes) unitPath content).value =
      (auditUnit rules unitPath content).value.map (Outcome.without · codes) := by
  rw [auditUnit_value, auditUnit_value]
  cases parseContent content with
  | error cause => rfl
  | ok m =>
    dsimp only
    cases ModuleTypes.ofModule m with
    | error e => rfl
    | ok types =>
      dsimp only
      rw [RuleSet.audit_without wellFormed, treeOutcome_map]

theorem auditEach_map {audit other : SourceFile → Logged (Except Escape Outcome)} {change : Outcome → Outcome}
    (each : ∀ u, (other u).value = (audit u).value.map change) (units : List SourceFile) :
    (auditEach other units).value = (auditEach audit units).value.map (List.map change) := by
  induction units with
  | nil => rfl
  | cons u units ih =>
    rw [auditEach, auditEach, Logged.value_bind, Logged.value_bind, each]
    cases (audit u).value with
    | error e => rfl
    | ok outcome =>
      change ((auditEach other units).value.map _) = ((auditEach audit units).value.map _).map _
      rw [ih]
      cases (auditEach audit units).value <;> rfl

theorem auditUnits_without {rules : RuleSet} (wellFormed : rules.WellFormed) (codes : List String) (w : Workspace)
    (processors : Nat) (jobs : Int) (units : List SourceFile) :
    (auditUnits w (rules.without codes) processors jobs units).value =
      (auditUnits w rules processors jobs units).value.map (List.map (Outcome.without · codes)) := by
  rw [auditUnits_value, auditUnits_value]
  exact auditEach_map (fun u => auditUnit_without wellFormed codes u.unitPath (w.readFile u.path)) units

theorem succeeded_without (codes : List String) (outcomes : List Outcome) :
    succeeded (outcomes.map (Outcome.without · codes)) = (succeeded outcomes).map (·.without codes) := by
  rw [succeeded, succeeded, List.filterMap_map, List.map_filterMap]
  apply List.filterMap_congr
  intro outcome _
  cases outcome <;> rfl

theorem failed_without (codes : List String) (outcomes : List Outcome) :
    failed (outcomes.map (Outcome.without · codes)) = failed outcomes := by
  rw [failed, failed, List.filterMap_map]
  apply List.filterMap_congr
  intro outcome _
  cases outcome <;> rfl

end TypingAudit.Audit
