import TypingAudit.Proofs.Ast.Parameters
import TypingAudit.Proofs.Audit.Receivers
import TypingAudit.Proofs.Typing.DynamicNames

/-!
Parameters without annotation. Such a parameter has the type that its default tells, and the dynamic type if the default
tells none. The type that a default tells is a plain name like `int`, and it goes through the module's own imports and
aliases as an annotation would: a module that calls the dynamic type `int` makes `x=1` dynamic.
-/

namespace TypingAudit.Typing

open Ast

/-- Whether a value tells its type: constants other than `None`, displays, comprehensions of these and formatted
strings. -/
def tellsType : Expr → Bool
  | .constant _ .none => false
  | .constant .. | .list .. | .listComp .. | .dict .. | .dictComp .. => true
  | .set .. | .setComp .. | .tuple .. | .joined .. => true
  | _ => false

def saysNothing (default : Option Expr) : Bool := !default.any tellsType

theorem isSome_typeOfLiteral? (e : Expr) : (typeOfLiteral? e).isSome = tellsType e := by
  cases e with
  | constant pos value => cases value <;> rfl
  | _ => rfl

theorem bind_typeOfLiteral?_eq_none_iff (default : Option Expr) :
    default.bind typeOfLiteral? = none ↔ saysNothing default = true := by
  cases default with
  | none => exact iff_of_true rfl rfl
  | some e =>
    rw [Option.bind_some, saysNothing, Option.any_some, ← isSome_typeOfLiteral?]
    cases typeOfLiteral? e <;> simp

theorem isWord_of_typeOfLiteral? {e : Expr} {type : String} (told : typeOfLiteral? e = some type) :
    isWord type = true := by
  have words : ["bool", "ellipsis", "str", "bytes", "int", "float", "complex", "list", "dict", "set",
      "tuple"].all isWord = true := by
    decide
  apply List.all_eq_true.1 words
  cases e with
  | constant pos value =>
    cases value <;> cases told <;> decide
  | list | listComp | dict | dictComp | set | setComp | tuple | joined =>
    cases told
    decide
  | _ => cases told

theorem meansDynamic_defaultType {m : Module} {types : ModuleTypes} (gathered : ModuleTypes.ofModule m = .ok types)
    (default : Option Expr) :
    types.meansDynamic (some (ModuleTypes.defaultType default)) = true ↔
      saysNothing default = true ∨
        ∃ type, default.bind typeOfLiteral? = some type ∧ takesForDynamic m type = true := by
  rw [← bind_typeOfLiteral?_eq_none_iff]
  unfold ModuleTypes.defaultType
  cases told : default.bind typeOfLiteral? with
  | none => exact iff_of_true rfl (.inl rfl)
  | some type =>
    obtain ⟨e, -, ofValue⟩ := Option.bind_eq_some_iff.1 told
    have word : isWord type = true := isWord_of_typeOfLiteral? ofValue
    rw [Option.getD_some, meansDynamic_eq gathered word]
    simp

end TypingAudit.Typing

namespace TypingAudit.Audit

open Ast Typing Rule

/-- The type that a parameter declares: the text of its annotation, or else what its default tells. -/
def declaredType (slot : Params.Slot) : Except PrintError (Option String) :=
  match slot.param.typeHint with
  | some typeHint => some <$> typeHint.print
  | none => .ok (some (ModuleTypes.defaultType slot.default))

theorem typeAt_slot (types : ModuleTypes) (d : SurroundingFunction) {slot : Params.Slot}
    (listed : slot ∈ d.function.params.slots) :
    types.typeAt (d.parameterPlace slot.entry) = declaredType slot := by
  change ModuleTypes.typeOfParam slot.param (some d.function.params) slot.role = _
  rw [ModuleTypes.typeOfParam, Option.bind_some, Params.default?_of_mem_slots _ listed]
  rfl

theorem declaredType_of_bare {slot : Params.Slot} (bare : slot.param.typeHint = none) :
    declaredType slot = .ok (some (ModuleTypes.defaultType slot.default)) := by
  rw [declaredType, bare]

theorem judgeType_reports_iff {what name : String} {c : Context} {facts : TypeFacts} {type : Option String}
    (typed : facts.typeAt c = .ok type) :
    (∃ found, Verdict.ofPrinting (judgeType what name c facts) = .report found) ↔ facts.meansDynamic type = true := by
  rw [judgeType, typed]
  by_cases dynamic : facts.meansDynamic type = true
  · simp [bind, Except.bind, dynamic, pure, Except.pure, Verdict.ofPrinting, Verdict.matched]
  · simp [bind, Except.bind, dynamic, pure, Except.pure, Verdict.ofPrinting]

theorem reports_implicitDynamic_bare (unitPath : String) (types : ModuleTypes) (d : SurroundingFunction)
    {slot : Params.Slot} (listed : slot ∈ d.function.params.slots) (bare : slot.param.typeHint = none)
    (other : receives d slot.entry = false) :
    (RuleSet.standard []).Reports unitPath types.facts Code.implicitDynamic (d.parameterPlace slot.entry) ↔
      types.meansDynamic (some (ModuleTypes.defaultType slot.default)) = true := by
  have hint : slot.entry.2.typeHint = none := bare
  rw [reports_implicitDynamic_iff, judgeDynamicParameter_parameterPlace, other, hint]
  have typed : types.facts.typeAt (d.parameterPlace slot.entry) = .ok (some (ModuleTypes.defaultType slot.default)) :=
    (typeAt_slot types d listed).trans (declaredType_of_bare bare)
  exact judgeType_reports_iff typed

/-- Every parameter has a slot with its default. Other than for receivers, a parameter without annotation is reported as
dynamic when its default says nothing, and besides only when the module takes the type that the default tells for the
dynamic one. -/
theorem bare_parameter_dynamic_iff (m : Module) {types : ModuleTypes} (gathered : ModuleTypes.ofModule m = .ok types)
    {d : SurroundingFunction} (defined : d ∈ m.definitions) {slot : Params.Slot}
    (listed : slot ∈ d.function.params.slots) (bare : slot.param.typeHint = none)
    (other : ¬(d.standsInClass = true ∧ d.isStatic = false ∧ d.firstPositional? = some slot.entry))
    (unitPath : String) :
    d.function.params.slots.map Params.Slot.entry = d.function.params.roles ∧
      ((RuleSet.standard []).audit unitPath (.tree m.tree) types.facts).value =
        .ok ⟨unitPath, (NodeTree.contexts m.tree).flatMap ((RuleSet.standard []).findingsAt unitPath types.facts)⟩ ∧
      d.parameterPlace slot.entry ∈ NodeTree.contexts m.tree ∧
      ((RuleSet.standard []).Reports unitPath types.facts Code.implicitDynamic (d.parameterPlace slot.entry) ↔
        saysNothing slot.default = true ∨
          ∃ type, slot.default.bind typeOfLiteral? = some type ∧ takesForDynamic m type = true) := by
  have slots := d.function.params.map_entry_slots
  have inRoles : slot.entry ∈ d.function.params.roles := by
    rw [← slots]
    exact List.mem_map_of_mem listed
  have unreceived : receives d slot.entry = false := Bool.eq_false_iff.2 (mt (receives_iff inRoles).1 other)
  rw [NodeTree.contexts_eq_inOrder, reports_implicitDynamic_bare unitPath types d listed bare unreceived]
  exact ⟨slots, RuleSet.standard_audit unitPath m.tree types.facts, Module.parameterPlace_mem_inOrder defined inRoles,
    meansDynamic_defaultType gathered slot.default⟩

/-- A module that imports the dynamic type as `int`, with a function `f(a, b=1, *, k=f"")`. -/
def rebindingModule : Module :=
  ⟨[.importFrom ⟨1, 0⟩ (some "typing") [⟨⟨1, 19⟩, "Any", some "int"⟩] 0,
    .functionDef ⟨⟨2, 0⟩, false, "f",
      ⟨[], [⟨⟨2, 6⟩, "a", none⟩, ⟨⟨2, 9⟩, "b", none⟩], none, [⟨⟨2, 17⟩, "k", none⟩], [some (.joined ⟨2, 19⟩ [])], none,
        [.constant ⟨2, 11⟩ (.int 1)]⟩, [.pass ⟨2, 25⟩], [], none⟩]⟩

theorem rebindingModule_reported :
    ∃ types d a b k, ModuleTypes.ofModule rebindingModule = .ok types ∧ rebindingModule.definitions = [d] ∧
      d.function.params.slots = [a, b, k] ∧ d.standsInClass = false ∧
      [a, b, k].map (fun slot => slot.param.typeHint.isNone && saysNothing slot.default) = [true, false, false] ∧
      (RuleSet.standard []).Reports "a.py" types.facts Code.implicitDynamic (d.parameterPlace a.entry) ∧
      (RuleSet.standard []).Reports "a.py" types.facts Code.implicitDynamic (d.parameterPlace b.entry) ∧
      ¬(RuleSet.standard []).Reports "a.py" types.facts Code.implicitDynamic (d.parameterPlace k.entry) := by
  refine ⟨_, _, _, _, _, rfl, rfl, rfl, rfl, rfl, ?_, ?_, ?_⟩
  · obtain ⟨-, -, -, reported⟩ := bare_parameter_dynamic_iff rebindingModule rfl List.mem_cons_self
      List.mem_cons_self rfl (fun stands => Bool.false_ne_true stands.1) "a.py"
    exact reported.2 (.inl rfl)
  · obtain ⟨-, -, -, reported⟩ := bare_parameter_dynamic_iff rebindingModule rfl List.mem_cons_self
      (List.mem_cons_of_mem _ List.mem_cons_self) rfl (fun stands => Bool.false_ne_true stands.1) "a.py"
    exact reported.2 (.inr ⟨"int", rfl, by with_unfolding_all decide⟩)
  · obtain ⟨-, -, -, reported⟩ := bare_parameter_dynamic_iff rebindingModule rfl List.mem_cons_self
      (List.mem_cons_of_mem _ (List.mem_cons_of_mem _ List.mem_cons_self)) rfl
      (fun stands => Bool.false_ne_true stands.1) "a.py"
    rw [reported]
    rintro (silent | ⟨type, told, taken⟩)
    · cases silent
    · cases told
      revert taken
      with_unfolding_all decide

def integerDefault : List UInt8 := "from typing import Any as int\ndef f(x=1) -> None: pass\n".toUTF8.toList

def hasToldParameterAt (pos : Source.Position) (d : SurroundingFunction) : Bool :=
  !d.standsInClass && d.function.params.slots.any fun slot =>
    slot.param.pos == pos && slot.param.typeHint.isNone && !saysNothing slot.default

theorem integer_default_reported_dynamic :
    ∃ m, parseSource integerDefault = .ok m ∧ m.definitions.any (hasToldParameterAt ⟨2, 6⟩) = true ∧
      (auditUnit (RuleSet.standard []) "unit.py" (.ok integerDefault)).value =
        .ok (.ok ⟨"unit.py",
          [⟨"unit.py", 2, 7, Severity.warning, Code.implicitDynamic,
              "Implicit Any type: parameter 'x' (x: int)", some dynamicFix⟩,
            ⟨"unit.py", 2, 7, Severity.warning, Code.missingParamType,
              "Missing parameter type: 'x' in f",
              some "Annotate 'x' with the type callers are expected to pass"⟩]⟩) := by
  apply exists_ok_of_map
  decide +kernel

end TypingAudit.Audit
