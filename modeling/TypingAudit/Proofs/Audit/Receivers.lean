import TypingAudit.Audit.Unit
import TypingAudit.Proofs.Audit.Signatures

/-!
Receivers of methods. A method belongs to the class that is the nearest class or function around it, whatever branches,
loops and other blocks lie between the two. Its first positional parameter is passed over exactly when there is no such
block, that is, when the method stands directly in the body of its class.
-/

namespace TypingAudit.Ast

def Node.opensScope (node : Node) : Bool := node.isClass || node.function?.isSome

namespace SurroundingFunction

variable (d : SurroundingFunction)

/-- Whether the nearest class or function around the definition is a class. -/
def belongsToClass : Bool := ((d.above.find? fun o => o.node.opensScope).map fun o => o.node.isClass).getD false

theorem belongsToClass_of_standsInClass (direct : d.standsInClass = true) : d.belongsToClass = true := by
  unfold standsInClass at direct
  unfold belongsToClass
  cases path : d.above with
  | nil =>
    rw [path] at direct
    cases direct
  | cons o above =>
    rw [path] at direct
    have isClass : o.node.isClass = true := direct
    have opens : o.node.opensScope = true := by rw [Node.opensScope, isClass, Bool.true_or]
    simp only [List.find?_cons, opens]
    exact isClass

def firstPositional? : Option (Role × Param) := d.function.params.positionalRoles.head?

theorem isFirstPositional_of_firstPositional? {entry : Role × Param} (first : d.firstPositional? = some entry) :
    d.function.params.isFirstPositional entry.1 = true := by
  unfold firstPositional? at first
  rcases d.function.params.positionalRoles_cases with none | ⟨head, rest, split, isFirst, -⟩
  · rw [none] at first
    cases first
  · rw [split] at first
    cases first
    exact isFirst

theorem mem_roles_of_firstPositional? {entry : Role × Param} (first : d.firstPositional? = some entry) :
    entry ∈ d.function.params.roles := by
  rw [Params.roles_eq]
  exact List.mem_append_left _ (List.mem_of_head? first)

end SurroundingFunction

end TypingAudit.Ast

namespace TypingAudit.Audit

open Ast Typing Rule

/-- The receiver is the first positional parameter of a definition that stands directly in a class and is not static. -/
theorem receives_iff {d : SurroundingFunction} {entry : Role × Param} (listed : entry ∈ d.function.params.roles) :
    receives d entry = true ↔ d.standsInClass = true ∧ d.isStatic = false ∧ d.firstPositional? = some entry := by
  rw [receives, Bool.and_eq_true, SurroundingFunction.isMethod_eq, Bool.and_eq_true, Bool.not_eq_true', and_assoc]
  refine and_congr_right fun _ => and_congr_right fun _ => ⟨?_, d.isFirstPositional_of_firstPositional?⟩
  intro isFirst
  unfold SurroundingFunction.firstPositional?
  rw [Params.roles_eq] at listed
  rcases List.mem_append.1 listed with positional | other
  · rcases d.function.params.positionalRoles_cases with none | ⟨head, rest, split, -, later⟩
    · rw [none] at positional
      cases positional
    · rw [split] at positional ⊢
      rcases List.mem_cons.1 positional with rfl | among
      · rfl
      · rw [later entry among] at isFirst
        cases isFirst
  · rw [Params.isFirstPositional_of_mem_otherRoles _ other] at isFirst
    cases isFirst

section Judgements

variable (unitPath : String) (facts : TypeFacts) (d : SurroundingFunction)

theorem reports_missingParamType_iff (entry : Role × Param) :
    (RuleSet.standard []).Reports unitPath facts Code.missingParamType (d.parameterPlace entry) ↔
      entry.2.typeHint = none ∧ receives d entry = false := by
  rw [RuleSet.reports_iff_of_only unitPath facts (RuleSet.isNative_standard []) rfl]
  change _ ∧ (∃ found, judgeParameter (d.parameterPlace entry) facts = .report found) ↔ _
  rw [judgeParameter_parameterPlace]
  by_cases typed : entry.2.typeHint.isSome = true
  · have hinted : entry.2.typeHint ≠ none := Option.isSome_iff_ne_none.1 typed
    simp [typed, hinted]
  · have bare : entry.2.typeHint = none := by simpa using typed
    by_cases received : receives d entry = true
    · simp [bare, received]
    · have owing : receives d entry = false := Bool.eq_false_iff.2 received
      rw [if_neg typed, if_neg received]
      exact iff_of_true ⟨rfl, _, rfl⟩ ⟨bare, owing⟩

theorem judgeDynamicParameter_parameterPlace (entry : Role × Param) :
    judgeDynamicParameter (d.parameterPlace entry) facts =
      if receives d entry then .silent
      else .ofPrinting (do
        if ← spellsDynamic? entry.2.typeHint then return .silent
        judgeType "parameter" entry.2.name (d.parameterPlace entry) facts) :=
  rfl

/-- Two rules speak of the dynamic type: one at parameters and one at assignments. -/
theorem reports_implicitDynamic_cases {c : Context} :
    (RuleSet.standard []).Reports unitPath facts Code.implicitDynamic c ↔
      (implicitDynamicParameter.applies c.node = true ∧ ∃ found, judgeDynamicParameter c facts = .report found) ∨
        (implicitDynamicField.applies c.node = true ∧ ∃ found, judgeDynamicField c facts = .report found) := by
  have chosen : ∀ e, e ∈ (RuleSet.standard []).checks ∧ e.code = Code.implicitDynamic ↔
      e = implicitDynamicParameter ∨ e = implicitDynamicField := by
    intro e
    have rules : (RuleSet.standard []).checks.filter (fun e => e.code == Code.implicitDynamic) =
        [implicitDynamicParameter, implicitDynamicField] := rfl
    have kept : e ∈ (RuleSet.standard []).checks.filter (fun e => e.code == Code.implicitDynamic) ↔
        e ∈ [implicitDynamicParameter, implicitDynamicField] := by rw [rules]
    rwa [List.mem_filter, beq_iff_eq, List.mem_pair] at kept
  rw [RuleSet.reports_iff unitPath facts (RuleSet.isNative_standard [])]
  constructor
  · rintro ⟨e, listed, code, applies, judged⟩
    rcases (chosen e).1 ⟨listed, code⟩ with rfl | rfl
    · exact .inl ⟨applies, judged⟩
    · exact .inr ⟨applies, judged⟩
  · rintro (⟨applies, judged⟩ | ⟨applies, judged⟩)
    · obtain ⟨listed, code⟩ := (chosen implicitDynamicParameter).2 (.inl rfl)
      exact ⟨implicitDynamicParameter, listed, code, applies, judged⟩
    · obtain ⟨listed, code⟩ := (chosen implicitDynamicField).2 (.inr rfl)
      exact ⟨implicitDynamicField, listed, code, applies, judged⟩

theorem reports_implicitDynamic_iff (entry : Role × Param) :
    (RuleSet.standard []).Reports unitPath facts Code.implicitDynamic (d.parameterPlace entry) ↔
      ∃ found, judgeDynamicParameter (d.parameterPlace entry) facts = .report found := by
  rw [reports_implicitDynamic_cases]
  constructor
  · rintro (⟨-, judged⟩ | ⟨applies, -⟩)
    · exact judged
    · cases applies
  · intro judged
    exact .inl ⟨rfl, judged⟩

theorem not_reports_implicitDynamic_of_receives {entry : Role × Param} (received : receives d entry = true) :
    ¬(RuleSet.standard []).Reports unitPath facts Code.implicitDynamic (d.parameterPlace entry) := by
  rw [reports_implicitDynamic_iff, judgeDynamicParameter_parameterPlace, if_pos received]
  rintro ⟨found, impossible⟩
  cases impossible

end Judgements

/-- The first positional parameter of a definition that is not static, when it has no annotation, is passed over by both
rules where the definition stands directly in a class, and is reported everywhere else: also in a method of a class that
stands in some block of the class body. -/
theorem receiver_passed_over_directly_in_class (m : Module) {d : SurroundingFunction} (defined : d ∈ m.definitions)
    (bound : d.isStatic = false) {entry : Role × Param} (first : d.firstPositional? = some entry)
    (bare : entry.2.typeHint = none) (facts : TypeFacts) (unitPath : String) :
    ((RuleSet.standard []).audit unitPath (.tree m.tree) facts).value =
        .ok ⟨unitPath, (NodeTree.contexts m.tree).flatMap ((RuleSet.standard []).findingsAt unitPath facts)⟩ ∧
      d.parameterPlace entry ∈ NodeTree.contexts m.tree ∧
      (d.standsInClass = true →
        d.belongsToClass = true ∧
        ¬(RuleSet.standard []).Reports unitPath facts Code.missingParamType (d.parameterPlace entry) ∧
        ¬(RuleSet.standard []).Reports unitPath facts Code.implicitDynamic (d.parameterPlace entry)) ∧
      (d.standsInClass = false →
        (RuleSet.standard []).Reports unitPath facts Code.missingParamType (d.parameterPlace entry)) := by
  have listed := d.mem_roles_of_firstPositional? first
  have received : receives d entry = d.standsInClass := by
    rw [Bool.eq_iff_iff, receives_iff listed]
    simp [bound, first]
  rw [NodeTree.contexts_eq_inOrder]
  refine ⟨RuleSet.standard_audit unitPath m.tree facts, ?_, ?_, ?_⟩
  · exact Module.parameterPlace_mem_inOrder defined listed
  · intro direct
    rw [direct] at received
    have notMissing : ¬(RuleSet.standard []).Reports unitPath facts Code.missingParamType (d.parameterPlace entry) := by
      rw [reports_missingParamType_iff, received]
      simp
    exact ⟨d.belongsToClass_of_standsInClass direct, notMissing,
      not_reports_implicitDynamic_of_receives unitPath facts d received⟩
  · intro apart
    rw [reports_missingParamType_iff]
    exact ⟨bare, received.trans apart⟩

def branchingClass : Module :=
  ⟨[.classDef ⟨1, 0⟩ "A" [] []
    [.branch ⟨2, 4⟩ (.name ⟨2, 7⟩ "x" .load)
      [.functionDef ⟨⟨3, 8⟩, false, "f", ⟨[], [⟨⟨3, 14⟩, "self", none⟩], none, [], [], none, []⟩, [.pass ⟨3, 29⟩], [],
        some (.constant ⟨3, 23⟩ .none)⟩] [],
      .functionDef ⟨⟨4, 4⟩, false, "g", ⟨[⟨⟨4, 10⟩, "self", none⟩], [], none, [], [], none, []⟩, [.pass ⟨4, 28⟩], [],
        some (.constant ⟨4, 22⟩ .none)⟩] []]⟩

theorem branchingClass_passed_over :
    ∃ inBranch direct, branchingClass.definitions = [inBranch, direct] ∧
      inBranch.isStatic = false ∧ inBranch.belongsToClass = true ∧ inBranch.standsInClass = false ∧
      direct.isStatic = false ∧ direct.standsInClass = true ∧
      (∃ self, inBranch.firstPositional? = some self ∧ self.2.typeHint = none ∧
        (RuleSet.standard []).Reports "a.py" (ModuleTypes.ofImports .empty).facts Code.missingParamType
          (inBranch.parameterPlace self)) ∧
      ∃ self, direct.firstPositional? = some self ∧ self.2.typeHint = none ∧
        ¬(RuleSet.standard []).Reports "a.py" (ModuleTypes.ofImports .empty).facts Code.missingParamType
          (direct.parameterPlace self) ∧
        ¬(RuleSet.standard []).Reports "a.py" (ModuleTypes.ofImports .empty).facts Code.implicitDynamic
          (direct.parameterPlace self) := by
  refine ⟨_, _, rfl, rfl, rfl, rfl, rfl, rfl, ⟨_, rfl, rfl, ?_⟩, ⟨_, rfl, rfl, ?_⟩⟩
  · obtain ⟨-, -, -, apart⟩ := receiver_passed_over_directly_in_class branchingClass List.mem_cons_self rfl rfl rfl
      (ModuleTypes.ofImports .empty).facts "a.py"
    exact apart rfl
  · obtain ⟨-, -, passed, -⟩ := receiver_passed_over_directly_in_class branchingClass
      (List.mem_cons_of_mem _ List.mem_cons_self) rfl rfl rfl (ModuleTypes.ofImports .empty).facts "a.py"
    exact (passed rfl).2

def methodInBranch : List UInt8 := "class A:\n if x:\n  def f(self) -> None: pass\n".toUTF8.toList

def hasReceiverAt (pos : Source.Position) (d : SurroundingFunction) : Bool :=
  !d.isStatic && d.belongsToClass && d.firstPositional?.any fun self => self.2.typeHint.isNone && self.2.pos == pos

theorem receiver_in_branch_reported :
    ∃ m, parseSource methodInBranch = .ok m ∧ m.definitions.any (hasReceiverAt ⟨3, 8⟩) = true ∧
      (auditUnit (RuleSet.standard []) "unit.py" (.ok methodInBranch)).value =
        .ok (.ok ⟨"unit.py",
          [⟨"unit.py", 3, 9, Severity.warning, Code.implicitDynamic,
              "Implicit Any type: parameter 'self' (self: Any)", some dynamicFix⟩,
            ⟨"unit.py", 3, 9, Severity.warning, Code.missingParamType,
              "Missing parameter type: 'self' in f",
              some "Annotate 'self' with the type callers are expected to pass"⟩]⟩) := by
  apply exists_ok_of_map
  decide +kernel

end TypingAudit.Audit
