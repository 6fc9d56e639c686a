import TypingAudit.Proofs.Audit.Conversions
import TypingAudit.Proofs.Typing.RelativeImports

/-!
Calls of names from the program's own package. Since the dots of relative imports are not looked at, such a name counts
as a cast, a conversion or the dynamic type when its last import spells the module and the name of one, and also when it
is spelled like a built-in name and no import of it has a module part.
-/

namespace TypingAudit.Audit

open Ast Typing Rule

section Calls

variable {types : ModuleTypes} {c : Context} {pos : Source.Position} {func : Expr} {args : List Expr}
  {keywords : List Keyword} (unitPath : String)

theorem reports_typeAssertion_iff (shape : c.node = .expr (.call pos func args keywords)) :
    (RuleSet.standard []).Reports unitPath types.facts Code.typeAssertion c ↔
      (Node.text? .unbounded c.node).isSome = true ∧ fullName types.imports func ∈ castNames := by
  have applies : (typeAssertion .unbounded).applies c.node = true := by
    rw [shape]
    rfl
  have judge : (typeAssertion .unbounded).judge c types.facts = judgeCast .unbounded c types.facts := rfl
  have resolve : types.facts.resolveName func = fullName types.imports func := rfl
  rw [RuleSet.reports_iff_of_only unitPath types.facts (RuleSet.isNative_standard []) rfl, judge,
    and_iff_right applies, ← List.contains_iff_mem]
  simp only [judgeCast, shape, Node.text?, resolve]
  by_cases cast : castNames.contains (fullName types.imports func) = true
  · rw [if_pos cast]
    cases written : (Expr.call pos func args keywords).sourceText .unbounded with
    | error e =>
      simp [Except.toOption, Verdict.ofPrinting, bind, Except.bind]
    | ok text =>
      simp [Except.toOption, Verdict.ofPrinting, Verdict.matched, bind, Except.bind, pure, Except.pure,
        List.contains_iff_mem.1 cast]
  · rw [if_neg cast]
    simp only [reduceCtorEq, exists_false, cast, Bool.false_eq_true, and_false]

theorem reports_unsafeCoercion_iff (shape : c.node = .expr (.call pos func args keywords)) :
    (RuleSet.standard []).Reports unitPath types.facts Code.unsafeCoercion c ↔
      (Node.text? .unbounded c.node).isSome = true ∧ args ≠ [] ∧
        namesPrimitive (fullName types.imports func) = true := by
  have judge : (unsafeCoercion .unbounded).judge c types.facts = judgeCoercion .unbounded c types.facts := rfl
  have told : isTold .unbounded types.imports c.node = true ↔
      (Node.text? .unbounded c.node).isSome = true ∧ args ≠ [] ∧
        namesPrimitive (fullName types.imports func) = true := by
    rw [isTold, Bool.and_eq_true, and_comm, shape]
    simp [isConversion]
  rw [RuleSet.reports_iff_of_only unitPath types.facts (RuleSet.isNative_standard []) rfl, judge, ← told]
  constructor
  · rintro ⟨-, found, judged⟩
    exact (judgeCoercion_report judged).1
  · intro conversion
    exact ⟨applies_of_isTold conversion, judgeCoercion_reports conversion⟩

end Calls

section Own

variable {m : Module} {types : ModuleTypes} (gathered : ModuleTypes.ofModule m = .ok types) {name : String}
  (own : isOwn m name = true) (pos : Source.Position) (use : Usage)
include gathered own

theorem fullName_of_isOwn :
    fullName types.imports (.name pos name use) = ((lastRecord? m name).map Member.text).getD name := by
  rw [fullName, ModuleTypes.ofModule_imports gathered, get?_importMap, importedAs?_of_isOwn own]

variable (word : isWord name = true)
include word

theorem isCast_of_isOwn :
    fullName types.imports (.name pos name use) ∈ castNames ↔
      ∃ module ∈ typingModules, lastRecord? m name = some (module, "cast") := by
  have casts : castNames = typingModules.map fun module => Member.text (module, "cast") := rfl
  rw [fullName_of_isOwn gathered own, casts, getD_text_mem_typing_iff _ (undotted_of_isWord word) (by decide)]

theorem isPrimitive_of_isOwn :
    namesPrimitive (fullName types.imports (.name pos name use)) = true ↔
      lastRecord? m name = none ∧ name ∈ primitiveNames ∨
        ∃ primitive ∈ primitiveNames, lastRecord? m name = some ("builtins", primitive) := by
  have undotted : ∀ primitive ∈ primitiveNames, '.' ∉ primitive.toList := by decide
  have either : ∀ primitive ∈ primitiveNames,
      (((lastRecord? m name).map Member.text).getD name = primitive ∨
        ((lastRecord? m name).map Member.text).getD name = "builtins." ++ primitive) ↔
      (lastRecord? m name = none ∧ name = primitive) ∨ lastRecord? m name = some ("builtins", primitive) := by
    intro primitive listed
    have qualified : "builtins." ++ primitive = Member.text ("builtins", primitive) := rfl
    rw [qualified, getD_text_eq_iff _ (undotted primitive listed),
      getD_text_eq_text_iff _ (undotted_of_isWord word) (by decide) (undotted primitive listed)]
  rw [fullName_of_isOwn gathered own, namesPrimitive]
  simp only [List.any_eq_true, Bool.or_eq_true, beq_iff_eq]
  constructor
  · rintro ⟨primitive, listed, named⟩
    rcases (either primitive listed).1 named with ⟨unrecorded, rfl⟩ | recorded
    · exact .inl ⟨unrecorded, listed⟩
    · exact .inr ⟨primitive, listed, recorded⟩
  · rintro (⟨unrecorded, listed⟩ | ⟨primitive, listed, recorded⟩)
    · exact ⟨name, listed, (either name listed).2 (.inl ⟨unrecorded, rfl⟩)⟩
    · exact ⟨primitive, listed, (either primitive listed).2 (.inr recorded)⟩

end Own

/-- A name that only relative imports bind is taken for something from outside exactly when its last record says so, or
when it has no record and is spelled like a built-in name or the dynamic type. -/
theorem own_name_mistaken_iff (m : Module) {types : ModuleTypes} (gathered : ModuleTypes.ofModule m = .ok types)
    {name : String} (word : isWord name = true) (own : isOwn m name = true) (unitPath : String) :
    ((RuleSet.standard []).audit unitPath (.tree m.tree) types.facts).value =
        .ok ⟨unitPath, (NodeTree.contexts m.tree).flatMap ((RuleSet.standard []).findingsAt unitPath types.facts)⟩ ∧
      (∀ c ∈ NodeTree.contexts m.tree, ∀ pos start use args keywords,
        c.node = .expr (.call pos (.name start name use) args keywords) →
        ((RuleSet.standard []).Reports unitPath types.facts Code.typeAssertion c ↔
          (Node.text? .unbounded c.node).isSome = true ∧
            ∃ module ∈ typingModules, lastRecord? m name = some (module, "cast")) ∧
        ((RuleSet.standard []).Reports unitPath types.facts Code.unsafeCoercion c ↔
          (Node.text? .unbounded c.node).isSome = true ∧ args ≠ [] ∧
            (lastRecord? m name = none ∧ name ∈ primitiveNames ∨
              ∃ primitive ∈ primitiveNames, lastRecord? m name = some ("builtins", primitive)))) ∧
      (types.meansDynamic (some name) = true ↔
        aliasesDynamic m name = true ∨ lastRecord? m name = none ∧ name = "Any" ∨
          ∃ module ∈ typingModules, lastRecord? m name = some (module, "Any")) := by
  rw [NodeTree.contexts_eq_inOrder]
  refine ⟨RuleSet.standard_audit unitPath m.tree types.facts, ?_, ?_⟩
  · intro c _ pos start use args keywords shape
    rw [reports_typeAssertion_iff unitPath shape, reports_unsafeCoercion_iff unitPath shape,
      isCast_of_isOwn gathered own start use word, isPrimitive_of_isOwn gathered own start use word]
    exact ⟨Iff.rfl, Iff.rfl⟩
  · rw [meansDynamic_eq gathered word, takesForDynamic_of_isOwn own word]

def callsWithArgument (name : String) : Node → Bool
  | .expr (.call pos (.name start id use) args keywords) =>
    id == name && !args.isEmpty && (Node.text? .unbounded (.expr (.call pos (.name start id use) args keywords))).isSome
  | _ => false

theorem call_of_callsWithArgument {name : String} {node : Node} (calls : callsWithArgument name node = true) :
    ∃ pos start use args keywords, node = .expr (.call pos (.name start name use) args keywords) ∧
      args ≠ [] ∧ (Node.text? .unbounded node).isSome = true := by
  unfold callsWithArgument at calls
  split at calls
  · rename_i pos start id use args keywords
    simp only [Bool.and_eq_true, beq_iff_eq, Bool.not_eq_true', List.isEmpty_eq_false_iff] at calls
    obtain ⟨⟨rfl, given⟩, written⟩ := calls
    exact ⟨pos, start, use, args, keywords, rfl, given, written⟩
  · cases calls

/-- Imports from the own package and calls of what they bind. Only `str` comes from a module with a name of its own. -/
def packageNames : Module :=
  ⟨[.importFrom ⟨1, 0⟩ (some "typing") [⟨⟨1, 20⟩, "cast", none⟩] 1,
    .importFrom ⟨2, 0⟩ none [⟨⟨2, 15⟩, "int", none⟩, ⟨⟨2, 20⟩, "Any", none⟩] 2,
    .importFrom ⟨3, 0⟩ (some "shapes") [⟨⟨3, 20⟩, "str", none⟩] 1,
    .expr ⟨4, 0⟩ (.call ⟨4, 0⟩ (.name ⟨4, 0⟩ "cast" .load) [.name ⟨4, 5⟩ "A" .load, .name ⟨4, 8⟩ "x" .load] []),
    .expr ⟨5, 0⟩ (.call ⟨5, 0⟩ (.name ⟨5, 0⟩ "int" .load) [.name ⟨5, 4⟩ "x" .load] []),
    .expr ⟨6, 0⟩ (.call ⟨6, 0⟩ (.name ⟨6, 0⟩ "str" .load) [.name ⟨6, 4⟩ "x" .load] [])]⟩

theorem packageNames_mistaken :
    ∃ types, ModuleTypes.ofModule packageNames = .ok types ∧
      (["cast", "int", "Any", "str"].all fun name => isWord name && isOwn packageNames name) = true ∧
      (∃ c ∈ NodeTree.contexts packageNames.tree, callsWithArgument "cast" c.node = true ∧
        (RuleSet.standard []).Reports "a.py" types.facts Code.typeAssertion c) ∧
      (∃ c ∈ NodeTree.contexts packageNames.tree, callsWithArgument "int" c.node = true ∧
        (RuleSet.standard []).Reports "a.py" types.facts Code.unsafeCoercion c) ∧
      (∃ c ∈ NodeTree.contexts packageNames.tree, callsWithArgument "str" c.node = true ∧
        ¬(RuleSet.standard []).Reports "a.py" types.facts Code.unsafeCoercion c) ∧
      aliasesDynamic packageNames "Any" = false ∧ types.meansDynamic (some "Any") = true := by
  have called : ["cast", "int", "str"].all (fun name =>
      packageNames.tree.inOrder.any fun c => callsWithArgument name c.node) = true := by
    decide
  rw [← NodeTree.contexts_eq_inOrder] at called
  simp only [List.all_cons, List.all_nil, Bool.and_true, Bool.and_eq_true, List.any_eq_true] at called
  obtain ⟨⟨castCall, castVisited, casts⟩, ⟨intCall, intVisited, ints⟩, ⟨strCall, strVisited, strs⟩⟩ := called
  refine ⟨_, rfl, by with_unfolding_all decide, ⟨castCall, castVisited, casts, ?_⟩, ⟨intCall, intVisited, ints, ?_⟩,
    ⟨strCall, strVisited, strs, ?_⟩, by with_unfolding_all decide, ?_⟩
  · obtain ⟨pos, start, use, args, keywords, shape, -, written⟩ := call_of_callsWithArgument casts
    obtain ⟨-, calls, -⟩ := own_name_mistaken_iff packageNames rfl (by decide : isWord "cast" = true)
      (by with_unfolding_all decide) "a.py"
    exact (calls castCall castVisited pos start use args keywords shape).1.2 ⟨written, by with_unfolding_all decide⟩
  · obtain ⟨pos, start, use, args, keywords, shape, given, written⟩ := call_of_callsWithArgument ints
    obtain ⟨-, calls, -⟩ := own_name_mistaken_iff packageNames rfl (by decide : isWord "int" = true)
      (by with_unfolding_all decide) "a.py"
    have unrecorded : lastRecord? packageNames "int" = none := by with_unfolding_all decide
    exact (calls intCall intVisited pos start use args keywords shape).2.2
      ⟨written, given, .inl ⟨unrecorded, by decide⟩⟩
  · obtain ⟨pos, start, use, args, keywords, shape, -, -⟩ := call_of_callsWithArgument strs
    obtain ⟨-, calls, -⟩ := own_name_mistaken_iff packageNames rfl (by decide : isWord "str" = true)
      (by with_unfolding_all decide) "a.py"
    rw [(calls strCall strVisited pos start use args keywords shape).2]
    rintro ⟨-, -, taken⟩
    revert taken
    with_unfolding_all decide
  · obtain ⟨-, -, dynamic⟩ := own_name_mistaken_iff packageNames rfl (by decide : isWord "Any" = true)
      (by with_unfolding_all decide) "a.py"
    exact dynamic.2 (by with_unfolding_all decide)

def packageCalls : List UInt8 :=
  "from .typing import cast\nfrom . import int, Any\ncast(A, int(x))\n".toUTF8.toList

def importsOwnNames (m : Module) : Bool :=
  ["cast", "int", "Any"].all (isOwn m) && !aliasesDynamic m "Any" &&
    (ModuleTypes.ofModule m).toOption.any fun types => types.meansDynamic (some "Any")

theorem own_names_reported :
    ∃ m, parseSource packageCalls = .ok m ∧ importsOwnNames m = true ∧
      (auditUnit (RuleSet.standard []) "unit.py" (.ok packageCalls)).value =
        .ok (.ok ⟨"unit.py",
          [⟨"unit.py", 3, 1, Severity.info, Code.typeAssertion, "Unsafe type assertion: cast(A, int(x))",
              some "Narrow with isinstance() or a TypeGuard instead of cast()"⟩,
            ⟨"unit.py", 3, 9, Severity.error, Code.unsafeCoercion, "Unsafe type coercion: int(x)",
              some "Validate the input and reject bad values instead of coercing with int()"⟩]⟩) := by
  apply exists_ok_of_map
  decide +kernel

end TypingAudit.Audit
