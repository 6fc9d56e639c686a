import TypingAudit.Proofs.Ast.Definitions
import TypingAudit.Proofs.Ast.Parameters
import TypingAudit.Proofs.Audit.Findings

/-!
The annotations that signatures lack. Going through the function definitions of a module in their order, and at each one
through its parameters in the order of their kinds, every parameter without annotation is found once, at its place. The
receiver of a method owes none, and a lambda has no signature. Every definition that does not say what it returns is
found once.
-/

namespace TypingAudit.Audit

open Ast Typing Rule

def stars : Role → String
  | .varArg => "*"
  | .kwArg => "**"
  | _ => ""

/-- The parameters that owe an annotation, each with its stars: all but the first positional one of a definition that
stands directly in a class and is not static. -/
def owingParameters (d : SurroundingFunction) : List (String × Param) :=
  let ps := d.function.params
  let positional := if d.standsInClass && !d.isStatic then ps.positional.drop 1 else ps.positional
  positional.map ("", ·) ++ ps.varArg.toList.map ("*", ·) ++ ps.kwOnly.map ("", ·) ++ ps.kwArg.toList.map ("**", ·)

def untypedParameter (unitPath : String) (d : SurroundingFunction) (entry : String × Param) : Finding :=
  ⟨unitPath, entry.2.pos.line, entry.2.pos.column, Severity.warning, Code.missingParamType,
    "Missing parameter type: '" ++ (entry.1 ++ entry.2.name) ++ "' in " ++ d.function.name,
    some ("Annotate '" ++ entry.2.name ++ "' with the type callers are expected to pass")⟩

def untypedReturn (unitPath : String) (d : SurroundingFunction) : Finding :=
  ⟨unitPath, d.function.pos.line, d.function.pos.column, Severity.warning, Code.missingReturnType,
    "Missing return type: function '" ++ d.function.name ++ "'",
    some "Add a return annotation (use '-> None' for procedures)"⟩

section Owing

variable (d : SurroundingFunction)

def receives (entry : Role × Param) : Bool := d.isMethod && d.function.params.isFirstPositional entry.1

theorem starredName_eq (role : Role) (name : String) : starredName role name = stars role ++ name := by
  cases role <;> simp [starredName, stars]

theorem stars_of_mem_positionalRoles {ps : Params} {entry : Role × Param} (member : entry ∈ ps.positionalRoles) :
    stars entry.1 = "" := by
  rcases List.mem_append.1 member with among | among
  · obtain ⟨i, -, is⟩ := Params.role_of_mem_withRoles among
    rw [is]
    rfl
  · obtain ⟨i, -, is⟩ := Params.role_of_mem_withRoles among
    rw [is]
    rfl

theorem map_stars_of_plain {entries : List (Role × Param)} (plain : ∀ entry ∈ entries, stars entry.1 = "") :
    entries.map (fun entry => (stars entry.1, entry.2)) = (entries.map Prod.snd).map ("", ·) := by
  rw [List.map_map]
  apply List.map_congr_left
  intro entry member
  rw [plain entry member]
  rfl

theorem map_filter_positionalRoles :
    (d.function.params.positionalRoles.filter fun entry => !receives d entry).map Prod.snd =
      if d.isMethod then d.function.params.positional.drop 1 else d.function.params.positional := by
  rw [← Params.map_snd_positionalRoles]
  by_cases method : d.isMethod = true
  · rw [if_pos method]
    rcases d.function.params.positionalRoles_cases with none | ⟨entry, rest, split, first, others⟩
    · rw [none]
      rfl
    · have kept : rest.filter (fun other => !receives d other) = rest := by
        apply List.filter_eq_self.2
        intro other member
        simp [receives, others other member]
      have left : receives d entry = true := by simp [receives, method, first]
      rw [split, List.filter_cons_of_neg (by simp [left]), kept]
      rfl
  · have kept : d.function.params.positionalRoles.filter (fun entry => !receives d entry) =
        d.function.params.positionalRoles := by
      apply List.filter_eq_self.2
      intro entry _
      simp [receives, method]
    rw [if_neg method, kept]

theorem map_stars_otherRoles (ps : Params) :
    ps.otherRoles.map (fun entry => (stars entry.1, entry.2)) =
      ps.varArg.toList.map ("*", ·) ++ ps.kwOnly.map ("", ·) ++ ps.kwArg.toList.map ("**", ·) := by
  have keywords : (Params.withRoles .kwOnly 0 ps.kwOnly).map (fun entry => (stars entry.1, entry.2)) =
      ps.kwOnly.map ("", ·) := by
    rw [map_stars_of_plain, Params.map_snd_withRoles]
    intro entry member
    obtain ⟨i, -, is⟩ := Params.role_of_mem_withRoles member
    rw [is]
    rfl
  rw [Params.otherRoles, List.map_append, List.map_append, keywords, List.map_map, List.map_map]
  rfl

/-- The parameters that owe an annotation are all but the receiver. -/
theorem map_filter_roles :
    (d.function.params.roles.filter fun entry => !receives d entry).map (fun entry => (stars entry.1, entry.2)) =
      owingParameters d := by
  have others : d.function.params.otherRoles.filter (fun entry => !receives d entry) =
      d.function.params.otherRoles := by
    apply List.filter_eq_self.2
    intro entry member
    simp [receives, Params.isFirstPositional_of_mem_otherRoles _ member]
  rw [Params.roles_eq, List.filter_append, List.map_append, others, map_stars_otherRoles, map_stars_of_plain,
    map_filter_positionalRoles]
  · simp only [owingParameters, List.append_assoc]
    rfl
  · intro entry member
    exact stars_of_mem_positionalRoles (List.mem_filter.1 member).1

end Owing

section Findings

variable (unitPath : String) (facts : TypeFacts) (d : SurroundingFunction)

theorem judgeParameter_parameterPlace (entry : Role × Param) :
    judgeParameter (d.parameterPlace entry) facts =
      if entry.2.typeHint.isSome then .silent
      else if receives d entry then .silent
      else .matched ("Missing parameter type: '" ++ starredName entry.1 entry.2.name ++ "' in " ++ d.function.name)
        ("Annotate '" ++ entry.2.name ++ "' with the type callers are expected to pass") :=
  rfl

theorem findingAt?_parameterPlace (entry : Role × Param) :
    findingAt? unitPath facts (d.parameterPlace entry) missingParameterType =
      if !receives d entry && entry.2.typeHint.isNone then
        some (untypedParameter unitPath d (stars entry.1, entry.2))
      else none := by
  have judged := judgeParameter_parameterPlace facts d entry
  by_cases typed : entry.2.typeHint.isSome = true
  · rw [if_pos typed] at judged
    have hinted : entry.2.typeHint.isNone = false := by simpa [Option.isSome_iff_ne_none] using typed
    rw [findingAt?_of_silent judged, hinted, Bool.and_false]
    rfl
  · rw [if_neg typed] at judged
    have bare : entry.2.typeHint.isNone = true := by simpa using typed
    by_cases received : receives d entry = true
    · rw [if_pos received] at judged
      rw [findingAt?_of_silent judged, received]
      rfl
    · rw [if_neg received, starredName_eq] at judged
      rw [Bool.eq_false_iff.2 received, bare]
      have reported : missingParameterType.judge (d.parameterPlace entry) facts = .report _ := judged
      exact findingAt?_of_report rfl reported

theorem judgeParameter_of_undeclared {c : Context} (undeclared : c.declares = false) :
    judgeParameter c facts = .silent := by
  unfold judgeParameter
  split
  next p same =>
    have unowned : c.declaringFunction? = none := by
      unfold Context.declares at undeclared
      rw [same] at undeclared
      simpa using undeclared
    rw [unowned]
    exact ite_self _
  next => rfl

theorem findingAt?_place :
    findingAt? unitPath facts d.place missingReturnType =
      if d.function.returns.isNone then some (untypedReturn unitPath d) else none := by
  have judged : judgeReturn d.place facts =
      if d.function.returns.isSome then .silent
      else .matched ("Missing return type: function '" ++ d.function.name ++ "'")
        "Add a return annotation (use '-> None' for procedures)" := rfl
  by_cases told : d.function.returns.isSome = true
  · rw [if_pos told] at judged
    have given : d.function.returns.isNone = false := by simpa [Option.isSome_iff_ne_none] using told
    rw [findingAt?_of_silent judged, given]
    rfl
  · rw [if_neg told] at judged
    rw [if_pos (by simpa using told)]
    have reported : missingReturnType.judge d.place facts = .report _ := judged
    exact findingAt?_of_report rfl reported

theorem judgeReturn_of_undeclared {c : Context} (undeclared : c.declares = false) : judgeReturn c facts = .silent := by
  unfold judgeReturn
  split
  next f same =>
    unfold Context.declares at undeclared
    rw [same] at undeclared
    cases undeclared
  next => rfl

theorem filterMap_places_parameters :
    d.places.filterMap (fun c => findingAt? unitPath facts c missingParameterType) =
      ((owingParameters d).filter fun entry => entry.2.typeHint.isNone).map (untypedParameter unitPath d) := by
  have skipped : findingAt? unitPath facts d.place missingParameterType = none := rfl
  calc d.places.filterMap (fun c => findingAt? unitPath facts c missingParameterType)
      = d.function.params.roles.filterMap
          (fun entry => findingAt? unitPath facts (d.parameterPlace entry) missingParameterType) := by
        rw [SurroundingFunction.places, List.filterMap_cons, skipped, List.filterMap_map]
        rfl
    _ = (d.function.params.roles.filter fun entry => !receives d entry && entry.2.typeHint.isNone).map
          (fun entry => untypedParameter unitPath d (stars entry.1, entry.2)) := by
        rw [← List.filterMap_eq_map', List.filterMap_filter]
        exact List.filterMap_congr fun entry _ => findingAt?_parameterPlace unitPath facts d entry
    _ = ((owingParameters d).filter fun entry => entry.2.typeHint.isNone).map (untypedParameter unitPath d) := by
        rw [← map_filter_roles, List.filter_map, List.map_map, List.filter_filter]
        simp only [Function.comp_def, Bool.and_comm]

theorem filterMap_places_return :
    d.places.filterMap (fun c => findingAt? unitPath facts c missingReturnType) =
      (if d.function.returns.isNone then some (untypedReturn unitPath d) else none).toList := by
  have parameters : (d.function.params.roles.map d.parameterPlace).filterMap
      (fun c => findingAt? unitPath facts c missingReturnType) = [] := by
    apply List.filterMap_eq_nil_iff.2
    intro c member
    obtain ⟨entry, -, rfl⟩ := List.mem_map.1 member
    rfl
  rw [SurroundingFunction.places, List.filterMap_cons, parameters, findingAt?_place]
  cases d.function.returns.isNone <;> rfl

end Findings

def isLambdaParameter (c : Context) : Bool :=
  match c.node, c.above with
  | .param _, ⟨_, .params _⟩ :: ⟨_, .expr (.lambda ..)⟩ :: _ => true
  | _, _ => false

theorem undeclared_of_isLambdaParameter {c : Context} (ofLambda : isLambdaParameter c = true) :
    c.declares = false := by
  unfold isLambdaParameter at ofLambda
  split at ofLambda
  next p role params place pos inner body above same path =>
    unfold Context.declares Context.declaringFunction?
    rw [same, path]
    rfl
  next => cases ofLambda

/-- Every definition is asked for the annotations of its own signature, and nothing else is. -/
theorem signature_findings (m : Module) (facts : TypeFacts) (unitPath : String) :
    ∃ findings,
      ((RuleSet.standard []).audit unitPath (.tree m.tree) facts).value = .ok ⟨unitPath, findings⟩ ∧
      (findings.filter fun f => f.code == Code.missingParamType) =
        m.definitions.flatMap (fun d =>
          ((owingParameters d).filter fun entry => entry.2.typeHint.isNone).map (untypedParameter unitPath d)) ∧
      (findings.filter fun f => f.code == Code.missingReturnType) =
        (m.definitions.filter fun d => d.function.returns.isNone).map (untypedReturn unitPath) ∧
      (NodeTree.contexts m.tree).filter (fun c => c.node.function?.isSome) =
        m.definitions.map SurroundingFunction.place ∧
      ∀ c ∈ NodeTree.contexts m.tree, isLambdaParameter c = true →
        ¬(RuleSet.standard []).Reports unitPath facts Code.missingParamType c := by
  refine ⟨_, RuleSet.standard_audit unitPath m.tree facts, ?_, ?_, m.filter_function_contexts, ?_⟩
  · rw [RuleSet.filter_flatMap_findingsAt unitPath facts rfl, m.filterMap_inOrder]
    · simp only [filterMap_places_parameters]
    · intro c undeclared
      exact findingAt?_of_silent (judgeParameter_of_undeclared facts undeclared)
  · rw [RuleSet.filter_flatMap_findingsAt unitPath facts rfl, m.filterMap_inOrder]
    · simp only [filterMap_places_return]
      rw [← List.filterMap_eq_flatMap_toList, ← List.filterMap_filter, List.filterMap_eq_map']
    · intro c undeclared
      exact findingAt?_of_silent (judgeReturn_of_undeclared facts undeclared)
  · intro c _ ofLambda reported
    obtain ⟨-, found, judged⟩ :=
      (RuleSet.reports_iff_of_only unitPath facts (RuleSet.isNative_standard []) rfl).1 reported
    have silent := judgeParameter_of_undeclared facts (undeclared_of_isLambdaParameter ofLambda)
    cases silent.symm.trans judged

/-- A class with a method whose last default is a lambda, and with a static function around another one. -/
def layeredSignatures : Module :=
  ⟨[.classDef ⟨1, 0⟩ "A" [] []
    [.functionDef ⟨⟨2, 4⟩, false, "m",
      ⟨[⟨⟨2, 10⟩, "self", none⟩], [⟨⟨2, 19⟩, "x", none⟩], some ⟨⟨2, 23⟩, "args", none⟩, [⟨⟨2, 29⟩, "k", none⟩],
        [some (.lambda ⟨2, 31⟩ ⟨[], [⟨⟨2, 38⟩, "y", none⟩], none, [], [], none, []⟩ (.name ⟨2, 41⟩ "y" .load))],
        some ⟨⟨2, 46⟩, "rest", none⟩, []⟩, [.pass ⟨2, 53⟩], [], none⟩,
      .functionDef ⟨⟨4, 4⟩, false, "s", ⟨[], [⟨⟨4, 10⟩, "a", none⟩], none, [], [], none, []⟩,
        [.functionDef ⟨⟨5, 8⟩, true, "inner", ⟨[], [⟨⟨5, 24⟩, "b", none⟩], none, [], [], none, []⟩, [.pass ⟨5, 36⟩], [],
          some (.name ⟨5, 30⟩ "int" .load)⟩],
        [.attribute ⟨3, 5⟩ (.name ⟨3, 5⟩ "abc" .load) "staticmethod" .load], none⟩] []]⟩

theorem layeredSignatures_found :
    ∃ findings,
      ((RuleSet.standard []).audit "a.py" (.tree layeredSignatures.tree) (ModuleTypes.ofImports .empty).facts).value =
        .ok ⟨"a.py", findings⟩ ∧
      (findings.filter fun f => f.code == Code.missingParamType).map (fun f => (f.line, f.column)) =
        [(2, 20), (2, 24), (2, 30), (2, 47), (4, 11), (5, 25)] ∧
      (findings.filter fun f => f.code == Code.missingReturnType).map (fun f => (f.line, f.column)) =
        [(2, 5), (4, 5)] ∧
      ∃ c ∈ NodeTree.contexts layeredSignatures.tree, isLambdaParameter c = true ∧
        ¬(RuleSet.standard []).Reports "a.py" (ModuleTypes.ofImports .empty).facts Code.missingParamType c := by
  obtain ⟨findings, audited, parameters, returns, -, lambdas⟩ :=
    signature_findings layeredSignatures (ModuleTypes.ofImports .empty).facts "a.py"
  refine ⟨findings, audited, ?_, ?_, ?_⟩
  · rw [parameters]
    decide
  · rw [returns]
    decide
  · have occurs : layeredSignatures.tree.inOrder.any isLambdaParameter = true := by decide
    rw [← NodeTree.contexts_eq_inOrder] at occurs
    obtain ⟨c, visited, ofLambda⟩ := List.any_eq_true.1 occurs
    exact ⟨c, visited, ofLambda, lambdas c visited ofLambda⟩

end TypingAudit.Audit
