import Mathlib.Data.List.Forall2
import TypingAudit.Audit.Batch
import TypingAudit.Proofs.Audit.Findings
import TypingAudit.Proofs.Typing.Declarations

/-!
Each source file of a batch has an outcome of its own. Whatever a file holds, and also when it cannot be read,
its audit comes to findings or to a failure that carries its name, and the outcomes stand in the order of the
files. One kind of file breaks this: when a function of the top level has a return annotation without text, the
fault is not kept to the file but ends the whole batch.
-/

namespace TypingAudit.Audit

open Ast Rule Selection Storage Typing

def outcomePath : Outcome → String
  | .ok result => result.unitPath
  | .error failure => failure.unitPath

def parseContent : Except Fault (List UInt8) → Except Cause Module
  | .ok bytes => parseSource bytes
  | .error fault => .error (.storage fault)

/-- Every return annotation at the top level of a file has a text; a file without module has none. -/
def ReturnsHaveText (content : Except Fault (List UInt8)) : Prop :=
  ∀ m, parseContent content = .ok m →
    ∀ s ∈ m.body, ∀ hint, ModuleTypes.returnHint? s = some hint → Succeeds hint.print

def treeOutcome : Except AuditFault UnitResult → Except Escape Outcome
  | .ok result => .ok (.ok result)
  | .error (.unit failure) => .ok (.error failure)
  | .error (.escaped fault) => .error (.read fault)

theorem auditUnit_value (rules : RuleSet) (unitPath : String) (content : Except Fault (List UInt8)) :
    (auditUnit rules unitPath content).value =
      match parseContent content with
      | .error cause => .ok (.error ⟨unitPath, cause⟩)
      | .ok m =>
        match ModuleTypes.ofModule m with
        | .error e => .error (.print e)
        | .ok types => treeOutcome (rules.audit unitPath (.tree m.tree) types.facts).value := by
  change (Logged.value (match parseContent content with
    | .error cause => _
    | .ok m => _)) = _
  cases parseContent content with
  | error cause => rfl
  | ok m =>
    dsimp only
    cases ModuleTypes.ofModule m with
    | error e => rfl
    | ok types =>
      dsimp only
      rw [Logged.value_bind]
      cases (rules.audit unitPath (.tree m.tree) types.facts).value with
      | error fault => cases fault <;> rfl
      | ok result => rfl

theorem auditUnit_succeeds_iff {rules : RuleSet} (wellFormed : rules.WellFormed) (unitPath : String)
    (content : Except Fault (List UInt8)) :
    Succeeds (auditUnit rules unitPath content).value ↔ ReturnsHaveText content := by
  rw [auditUnit_value, ReturnsHaveText]
  cases parseContent content with
  | error cause => simp
  | ok m =>
    simp only [Except.ok.injEq, forall_eq', ← ModuleTypes.ofModule_succeeds_iff]
    cases ModuleTypes.ofModule m with
    | error e => simp [Succeeds]
    | ok types => simp [RuleSet.audit_value wellFormed, treeOutcome]

theorem outcomePath_auditUnit {rules : RuleSet} (wellFormed : rules.WellFormed) {unitPath : String}
    {content : Except Fault (List UInt8)} {outcome : Outcome}
    (audited : (auditUnit rules unitPath content).value = .ok outcome) : outcomePath outcome = unitPath := by
  rw [auditUnit_value] at audited
  split at audited
  · cases audited
    rfl
  · split at audited
    · cases audited
    · rw [RuleSet.audit_value wellFormed] at audited
      cases audited
      rfl

theorem auditEach_value_ok_iff (audit : SourceFile → Logged (Except Escape Outcome))
    (units : List SourceFile) (outcomes : List Outcome) :
    (auditEach audit units).value = .ok outcomes ↔
      List.Forall₂ (fun u outcome => (audit u).value = .ok outcome) units outcomes := by
  induction units generalizing outcomes with
  | nil => cases outcomes <;> simp [auditEach]
  | cons u units ih =>
    rw [auditEach, Logged.value_bind]
    cases first : (audit u).value with
    | error e => cases outcomes <;> simp [first]
    | ok outcome =>
      simp only [Logged.value_bind, Logged.value_pure]
      cases rest : (auditEach audit units).value with
      | error e =>
        have none : ∀ others, ¬List.Forall₂ (fun u outcome => (audit u).value = .ok outcome) units others := by
          intro others paired
          rw [(ih others).2 paired] at rest
          cases rest
        cases outcomes <;> simp [Except.map, none]
      | ok others =>
        have paired := (ih others).1 rest
        cases outcomes with
        | nil => simp [Except.map]
        | cons outcome' outcomes =>
          simp only [Except.map, Except.ok.injEq, List.cons.injEq, List.forall₂_cons, first, ← ih, rest]

theorem auditEach_succeeds_iff (audit : SourceFile → Logged (Except Escape Outcome))
    (units : List SourceFile) :
    Succeeds (auditEach audit units).value ↔ ∀ u ∈ units, Succeeds (audit u).value := by
  constructor
  · rintro ⟨outcomes, audited⟩
    have paired := (auditEach_value_ok_iff audit units outcomes).1 audited
    intro u member
    clear audited
    induction paired with
    | nil => cases member
    | cons first rest ih =>
      rcases List.mem_cons.1 member with rfl | later
      · exact ⟨_, first⟩
      · exact ih later
  · intro each
    induction units with
    | nil => exact ⟨[], rfl⟩
    | cons u units ih =>
      obtain ⟨outcome, first⟩ := each u (List.mem_cons_self ..)
      obtain ⟨outcomes, rest⟩ := ih fun v later => each v (List.mem_cons_of_mem u later)
      have paired := (auditEach_value_ok_iff audit units outcomes).1 rest
      exact ⟨outcome :: outcomes, (auditEach_value_ok_iff audit _ _).2 (List.Forall₂.cons first paired)⟩

theorem mem_outcomes_iff {audit : SourceFile → Logged (Except Escape Outcome)} {units : List SourceFile}
    {outcomes : List Outcome}
    (paired : List.Forall₂ (fun u outcome => (audit u).value = .ok outcome) units outcomes) (outcome : Outcome) :
    outcome ∈ outcomes ↔ ∃ u ∈ units, (audit u).value = .ok outcome := by
  induction paired with
  | nil => simp
  | cons first rest ih => simp [ih, first, eq_comm]

theorem mem_succeeded_iff {outcomes : List Outcome} {result : UnitResult} :
    result ∈ succeeded outcomes ↔ .ok result ∈ outcomes := by
  rw [succeeded, List.mem_filterMap]
  constructor
  · rintro ⟨outcome, member, kept⟩
    cases outcome with
    | error failure => cases kept
    | ok found =>
      cases kept
      exact member
  · intro member
    exact ⟨.ok result, member, rfl⟩

theorem auditUnits_value (w : Workspace) (rules : RuleSet) (processors : Nat) (jobs : Int)
    (units : List SourceFile) :
    (auditUnits w rules processors jobs units).value =
      (auditEach (fun u => auditUnit rules u.unitPath (w.readFile u.path)) units).value := by
  unfold auditUnits
  dsimp only
  split <;> rfl

/-- A batch yields its outcomes exactly when the return annotations at the top level of its files have texts;
the outcome in each slot is then that of the file in the same place, and carries its name. -/
theorem outcome_in_every_slot (stack : CallStack) (rules : RuleSet) (listed : ∀ d ∈ rules.checks, d ∈ catalogue stack)
    (w : Workspace) (processors : Nat) (units : List SourceFile) :
    (Succeeds (auditUnits w rules processors 1 units).value ↔
      ∀ u ∈ units, ReturnsHaveText (w.readFile u.path)) ∧
    ∀ outcomes, (auditUnits w rules processors 1 units).value = .ok outcomes →
      List.Forall₂ (fun u outcome =>
        (auditUnit rules u.unitPath (w.readFile u.path)).value = .ok outcome ∧
          outcomePath outcome = u.unitPath) units outcomes := by
  have wellFormed := (RuleSet.isNative_of_catalogue listed).wellFormed
  rw [auditUnits_value]
  constructor
  · rw [auditEach_succeeds_iff]
    simp only [auditUnit_succeeds_iff wellFormed]
  · intro outcomes audited
    have paired := (auditEach_value_ok_iff _ units outcomes).1 audited
    apply paired.imp
    intro u outcome single
    exact ⟨single, outcomePath_auditUnit wellFormed single⟩

def damagedFolder : Workspace :=
  ⟨.directory [("odd.py", .directory []), ("null.py", .file [0])], []⟩

def unitsNamed (names : List String) : List SourceFile := names.map fun name => ⟨⟨.root, [name]⟩, name⟩

theorem outcomes_of_damagedFolder :
    ∃ outcomes, (auditUnits damagedFolder (RuleSet.standard []) 1 1
        (unitsNamed ["missing.py", "odd.py", "null.py"])).value = .ok outcomes ∧
      outcomes.map outcomePath = ["missing.py", "odd.py", "null.py"] := by
  have slots := outcome_in_every_slot .unbounded (RuleSet.standard []) (RuleSet.standardOn_listed .unbounded [])
    damagedFolder 1 (unitsNamed ["missing.py", "odd.py", "null.py"])
  have unparsed : ∀ u ∈ unitsNamed ["missing.py", "odd.py", "null.py"],
      (parseContent (damagedFolder.readFile u.path)).isOk = false := by decide
  obtain ⟨outcomes, audited⟩ := slots.1.2 (by
    intro u member m parsed
    have failed := unparsed u member
    rw [parsed] at failed
    cases failed)
  refine ⟨outcomes, audited, ?_⟩
  have paths := (slots.2 outcomes audited).imp fun u outcome pair => pair.2
  have same : outcomes.map outcomePath =
      (unitsNamed ["missing.py", "odd.py", "null.py"]).map SourceFile.unitPath := by
    symm
    rw [← List.forall₂_eq_eq_eq, List.forall₂_map_left_iff, List.forall₂_map_right_iff]
    exact paths.imp fun u outcome same => same.symm
  rw [same]
  rfl

def controlCharacterReturn : List UInt8 :=
  [100, 101, 102, 32, 102, 40, 41, 32, 45, 62, 32, 102, 39, 123, 34, 1, 34, 125, 39, 58, 32, 112, 97, 115,
    115, 10]

/-- One such file takes the outcome of its harmless neighbour with it. -/
theorem batch_ended_by_one_unit :
    (auditUnits ⟨.directory [("a.py", .file controlCharacterReturn), ("b.py", .file [120, 10])], []⟩
      (RuleSet.standard []) 1 1 (unitsNamed ["a.py", "b.py"])).value = .error (.print .backslashInField) := by
  decide +kernel

end TypingAudit.Audit
