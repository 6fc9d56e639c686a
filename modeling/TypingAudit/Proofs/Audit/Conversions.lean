import TypingAudit.Audit.Unit
import TypingAudit.Proofs.Ast.Writing
import TypingAudit.Proofs.Audit.Findings
import TypingAudit.Proofs.Pairing
import TypingAudit.Proofs.Typing.Declarations

/-!
The conversion calls of a module and the findings about them. Every call of a primitive type with an argument is
found once, at its place and in the order of the tree, provided that it has a text. A call without text is
passed over; it goes deeper than the stack has room, or has an overlong integer or a replacement field with a
backslash in it.
-/

namespace TypingAudit.Audit

open Ast Typing Rule

/-- A primitive type under its own name, or under its name in the module of built-in names. -/
def namesPrimitive (name : String) : Bool :=
  primitiveNames.any fun primitive => name == primitive || name == "builtins." ++ primitive

/-- Whether a node is a call of a primitive type with at least one positional argument. -/
def isConversion (imports : Bindings String) : Node → Bool
  | .expr (.call _ func args _) => !args.isEmpty && namesPrimitive (fullName imports func)
  | _ => false

def Node.text? (stack : CallStack) : Node → Option String
  | .expr e => (e.sourceText stack).toOption
  | _ => none

theorem withoutBuiltins_append (name : String) : withoutBuiltins ("builtins." ++ name) = name := by
  simp [withoutBuiltins]

theorem eq_append_of_qualified {name : String}
    (qualified : "builtins.".toList.isPrefixOf name.toList = true) :
    name = "builtins." ++ withoutBuiltins name := by
  obtain ⟨rest, split⟩ := List.isPrefixOf_iff_prefix.1 qualified
  have shape : name = "builtins." ++ String.ofList rest := by
    apply String.toList_injective
    rw [← split, String.toList_append, String.toList_ofList (l := rest)]
  rw [shape, withoutBuiltins_append]

theorem contains_withoutBuiltins (name : String) :
    primitiveNames.contains (withoutBuiltins name) = namesPrimitive name := by
  rw [Bool.eq_iff_iff]
  simp only [namesPrimitive, List.contains_iff_mem, List.any_eq_true, Bool.or_eq_true, beq_iff_eq]
  constructor
  · intro listed
    refine ⟨_, listed, ?_⟩
    by_cases qualified : "builtins.".toList.isPrefixOf name.toList = true
    · exact Or.inr (eq_append_of_qualified qualified)
    · left
      rw [withoutBuiltins, if_neg qualified]
  · rintro ⟨primitive, listed, rfl | rfl⟩
    · have bare : ∀ name ∈ primitiveNames, withoutBuiltins name = name := by decide
      rw [bare name listed]
      exact listed
    · rw [withoutBuiltins_append]
      exact listed

theorem convertedTo?_eq_none_iff (types : ModuleTypes) (func : Expr) :
    convertedTo? types.facts func = none ↔ namesPrimitive (fullName types.imports func) = false := by
  rw [← contains_withoutBuiltins]
  change (if primitiveNames.contains (withoutBuiltins (fullName types.imports func)) = true then
    some (withoutBuiltins (fullName types.imports func)) else none) = none ↔ _
  by_cases listed : primitiveNames.contains (withoutBuiltins (fullName types.imports func)) = true
  · rw [if_pos listed, listed]
    simp
  · rw [if_neg listed]
    exact iff_of_true rfl (Bool.eq_false_iff.2 listed)

/-- A finding about a conversion call tells its place and its text. -/
structure Tells (stack : CallStack) (unitPath : String) (c : Context) (f : Finding) : Prop where
  path : f.unitPath = unitPath
  line : f.line = c.node.pos.line
  column : f.column = c.node.pos.column
  severity : f.severity = Severity.error
  code : f.code = Code.unsafeCoercion
  message : ∃ text, Node.text? stack c.node = some text ∧ f.message = "Unsafe type coercion: " ++ text

def isTold (stack : CallStack) (imports : Bindings String) (node : Node) : Bool :=
  isConversion imports node && (Node.text? stack node).isSome

section OneCall

variable {stack : CallStack}

theorem judgeCoercion_report {types : ModuleTypes} {c : Context} {found : Remark}
    (reported : judgeCoercion stack c types.facts = .report found) :
    isTold stack types.imports c.node = true ∧ found.anchor = none ∧
      ∃ text, Node.text? stack c.node = some text ∧ found.message = "Unsafe type coercion: " ++ text := by
  unfold judgeCoercion at reported
  split at reported
  · rename_i pos func args keywords shape
    split at reported
    · cases reported
    · rename_i target converted
      split at reported
      · cases reported
      · rename_i given
        have named : namesPrimitive (fullName types.imports func) = true := by
          by_contra unnamed
          have absent := (convertedTo?_eq_none_iff types func).2 (Bool.eq_false_iff.2 unnamed)
          rw [absent] at converted
          cases converted
        cases written : (Expr.call pos func args keywords).sourceText stack with
        | error e =>
          rw [written] at reported
          cases reported
        | ok text =>
          rw [written] at reported
          cases reported
          rw [shape]
          refine ⟨?_, rfl, text, ?_, rfl⟩
          · simp [isTold, isConversion, Node.text?, given, named, written, Except.toOption]
          · simp [Node.text?, written, Except.toOption]
  · cases reported

theorem judgeCoercion_reports {types : ModuleTypes} {c : Context}
    (told : isTold stack types.imports c.node = true) :
    ∃ found, judgeCoercion stack c types.facts = .report found := by
  obtain ⟨conversion, hasText⟩ := Bool.and_eq_true_iff.1 told
  unfold isConversion at conversion
  split at conversion
  · rename_i pos func args keywords shape
    obtain ⟨given, named⟩ := Bool.and_eq_true_iff.1 conversion
    rw [shape] at hasText
    cases converted : convertedTo? types.facts func with
    | none =>
      rw [(convertedTo?_eq_none_iff types func).1 converted] at named
      cases named
    | some target =>
      cases written : (Expr.call pos func args keywords).sourceText stack with
      | error e => simp [Node.text?, written, Except.toOption] at hasText
      | ok text =>
        have nonempty : args.isEmpty = false := by simpa using given
        simp only [judgeCoercion, shape, converted, nonempty, written]
        exact ⟨_, rfl⟩
  · cases conversion

theorem applies_of_isTold {imports : Bindings String} {node : Node} (told : isTold stack imports node = true) :
    isCall node = true := by
  obtain ⟨conversion, -⟩ := Bool.and_eq_true_iff.1 told
  unfold isConversion at conversion
  split at conversion
  · rfl
  · cases conversion

theorem tells_of_findingAt? {types : ModuleTypes} {unitPath : String} {c : Context} {f : Finding}
    (made : findingAt? unitPath types.facts c (unsafeCoercion stack) = some f) :
    isTold stack types.imports c.node = true ∧ Tells stack unitPath c f := by
  have native : ((unsafeCoercion stack).judge c types.facts).isForeign = false := judgeCoercion_isForeign stack c _
  obtain ⟨-, found, reported, rfl⟩ := (findingAt?_eq_some_iff native).1 made
  obtain ⟨told, atNode, message⟩ := judgeCoercion_report reported
  refine ⟨told, rfl, ?_, ?_, rfl, rfl, message⟩
  · simp [findingOf, atNode]
  · simp [findingOf, atNode]

theorem findingAt?_of_isTold {types : ModuleTypes} {c : Context} (unitPath : String)
    (told : isTold stack types.imports c.node = true) :
    ∃ f, findingAt? unitPath types.facts c (unsafeCoercion stack) = some f := by
  obtain ⟨found, reported⟩ := judgeCoercion_reports told
  exact ⟨_, findingAt?_of_report (applies_of_isTold told) reported⟩

theorem standard_coercions (unitPath : String) (facts : TypeFacts) (c : Context) :
    ((RuleSet.standardOn stack []).findingsAt unitPath facts c).filter (fun f => f.code == Code.unsafeCoercion) =
      (findingAt? unitPath facts c (unsafeCoercion stack)).toList :=
  RuleSet.filter_findingsAt_of_only unitPath facts rfl c

theorem sourceText_error {e : Expr} {error : PrintError} (unwritten : e.sourceText stack = .error error) :
    (∃ place ∈ (e.tree .other).inOrder, stack.holdsAt place = false) ∨
      ∃ o ∈ (e.tree .other).values, o.node.Unwritable := by
  unfold Expr.sourceText at unwritten
  split at unwritten
  · right
    by_contra writable
    push Not at writable
    obtain ⟨text, written⟩ := Expr.print_succeeds _ writable
    rw [written] at unwritten
    cases unwritten
  · rename_i deep
    left
    simp only [CallStack.holds, Bool.or_eq_true, not_or, Bool.not_eq_true, List.all_eq_false] at deep
    obtain ⟨-, place, visited, lacking⟩ := deep
    rw [NodeTree.contexts_eq_inOrder] at visited
    exact ⟨place, visited, lacking⟩

theorem unwritable_of_untold {imports : Bindings String} {node : Node}
    (conversion : isConversion imports node = true) (untold : isTold stack imports node = false) :
    ∃ e, node = .expr e ∧ ((∃ place ∈ (e.tree .other).inOrder, stack.holdsAt place = false) ∨
      ∃ o ∈ (e.tree .other).values, o.node.Unwritable) := by
  unfold isConversion at conversion
  split at conversion
  · rename_i pos func args keywords
    refine ⟨_, rfl, ?_⟩
    cases written : (Expr.call pos func args keywords).sourceText stack with
    | error error => exact sourceText_error written
    | ok text =>
      simp only [isTold, isConversion, conversion, Node.text?, written] at untold
      cases untold
  · cases conversion

end OneCall

/-- The findings about conversions are, one for one and in order, the conversion calls that have a text; and the
only things that can keep a call from having one are a node somewhere in it for which the stack has no room, an overlong
integer, and a backslash in a replacement field. -/
theorem conversion_findings (stack : CallStack) (m : Module) (types : ModuleTypes)
    (gathered : ModuleTypes.ofModule m = .ok types) (unitPath : String) :
    ∃ findings,
      ((RuleSet.standardOn stack []).audit unitPath (.tree m.tree) types.facts).value = .ok ⟨unitPath, findings⟩ ∧
      List.Forall₂ (Tells stack unitPath)
        (m.tree.inOrder.filter fun c => isTold stack (importMap m.tree) c.node)
        (findings.filter fun f => f.code == Code.unsafeCoercion) ∧
      ∀ c ∈ m.tree.inOrder, isConversion (importMap m.tree) c.node = true →
        isTold stack (importMap m.tree) c.node = false →
        ∃ e, c.node = .expr e ∧ ((∃ place ∈ (e.tree .other).inOrder, stack.holdsAt place = false) ∨
          ∃ o ∈ (e.tree .other).values, o.node.Unwritable) := by
  have native := RuleSet.isNative_of_catalogue (RuleSet.standardOn_listed stack [])
  refine ⟨_, RuleSet.audit_value native.wellFormed unitPath m.tree types.facts, ?_, ?_⟩
  · rw [List.filter_flatMap]
    simp only [standard_coercions, ← ModuleTypes.ofModule_imports gathered]
    have single : m.tree.inOrder.flatMap
        (fun c => (findingAt? unitPath types.facts c (unsafeCoercion stack)).toList) =
        m.tree.inOrder.filterMap fun c => findingAt? unitPath types.facts c (unsafeCoercion stack) := by
      rw [List.filterMap_eq_flatMap_toList]
    rw [single]
    apply forall₂_filterMap
    · intro c f made
      exact tells_of_findingAt? made
    · intro c told
      exact findingAt?_of_isTold unitPath told
  · intro c _ conversion untold
    exact unwritable_of_untold conversion untold

def nestedConversions : Module :=
  ⟨[.expr ⟨1, 0⟩ (.call ⟨1, 0⟩ (.name ⟨1, 0⟩ "int" .load)
    [.call ⟨1, 4⟩ (.name ⟨1, 4⟩ "str" .load) [.starred ⟨1, 8⟩ (.name ⟨1, 9⟩ "x" .load) .load] []] [])]⟩

def shortStack : CallStack := ⟨some 3, fun c => c.above.length⟩

theorem nestedConversions_found :
    (∃ findings,
      ((RuleSet.standardOn .unbounded []).audit "a.py" (.tree nestedConversions.tree)
        (ModuleTypes.ofImports (importMap nestedConversions.tree)).facts).value = .ok ⟨"a.py", findings⟩ ∧
      (findings.filter fun f => f.code == Code.unsafeCoercion).length = 2) ∧
    ∃ findings,
      ((RuleSet.standardOn shortStack []).audit "a.py" (.tree nestedConversions.tree)
        (ModuleTypes.ofImports (importMap nestedConversions.tree)).facts).value = .ok ⟨"a.py", findings⟩ ∧
      (findings.filter fun f => f.code == Code.unsafeCoercion).length = 1 := by
  have found (stack : CallStack) := conversion_findings stack nestedConversions
    (ModuleTypes.ofImports (importMap nestedConversions.tree)) rfl "a.py"
  constructor
  · obtain ⟨findings, audited, told, -⟩ := found .unbounded
    refine ⟨findings, audited, ?_⟩
    rw [← told.length_eq]
    decide +kernel
  · obtain ⟨findings, audited, told, -⟩ := found shortStack
    refine ⟨findings, audited, ?_⟩
    rw [← told.length_eq]
    decide +kernel

def controlCharacterCall : List UInt8 := [105, 110, 116, 40, 102, 39, 123, 34, 1, 34, 125, 39, 41, 10]

theorem conversion_without_text_unfound :
    ∃ m, parseSource controlCharacterCall = .ok m ∧
      (m.tree.inOrder.filter fun c => isConversion (importMap m.tree) c.node).length = 1 ∧
      (auditUnit (RuleSet.standard []) "unit.py" (.ok controlCharacterCall)).value =
        .ok (.ok ⟨"unit.py", []⟩) := by
  have counted : ((parseSource controlCharacterCall).map fun m =>
      (m.tree.inOrder.filter fun c => isConversion (importMap m.tree) c.node).length) = .ok 1 := by
    decide +kernel
  have audited : (auditUnit (RuleSet.standard []) "unit.py" (.ok controlCharacterCall)).value =
      .ok (.ok ⟨"unit.py", []⟩) := by
    decide +kernel
  cases parsed : parseSource controlCharacterCall with
  | error cause =>
    rw [parsed] at counted
    cases counted
  | ok m =>
    rw [parsed] at counted
    exact ⟨m, rfl, Except.ok.inj counted, audited⟩

end TypingAudit.Audit
