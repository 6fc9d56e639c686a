import TypingAudit.Proofs.Audit.Defaults

/-!
Parameters and the names that read them. The type of a parameter can be asked for at the parameter itself, and anywhere
inside its function by its name. Both ways lead to what the parameter declares, as long as no parameter before it has
the same name. So a field of a method's receiver that is set from a parameter is reported exactly when the parameter is.
-/

namespace TypingAudit.Ast

/-- The path of a node leads through a definition, and through no other one after it. -/
def Context.LiesIn (c : Context) (d : SurroundingFunction) : Prop :=
  ∃ within role, c.above = within ++ ⟨role, .stmt (.functionDef d.function)⟩ :: d.above ∧
    ∀ o ∈ within, o.node.function? = none

theorem SurroundingFunction.nearest?_of_path {within above : List Occurrence} {f : FunctionDef} {role : Role}
    (inner : ∀ o ∈ within, o.node.function? = none) :
    nearest? (within ++ ⟨role, .stmt (.functionDef f)⟩ :: above) = some ⟨f, above⟩ := by
  induction within with
  | nil => rfl
  | cons o within ih =>
    obtain ⟨noFunction, rest⟩ := List.forall_mem_cons.1 inner
    rw [List.cons_append, nearest?, noFunction]
    exact ih rest

theorem Context.functionAround?_of_liesIn {c : Context} {d : SurroundingFunction} (lies : c.LiesIn d) :
    c.functionAround? = some d := by
  obtain ⟨within, role, path, inner⟩ := lies
  rw [functionAround?, path]
  exact SurroundingFunction.nearest?_of_path inner

/-- No parameter before the one in the slot has its name. -/
def Params.FirstSoCalled (ps : Params) (slot : Slot) : Prop :=
  ∃ before after, ps.slots = before ++ slot :: after ∧ ∀ earlier ∈ before, earlier.param.name ≠ slot.param.name

theorem Params.FirstSoCalled.mem {ps : Params} {slot : Slot} (first : ps.FirstSoCalled slot) : slot ∈ ps.slots := by
  obtain ⟨before, after, split, -⟩ := first
  rw [split]
  exact List.mem_append_right _ List.mem_cons_self

theorem Params.find?_of_firstSoCalled {ps : Params} {slot : Slot} (first : ps.FirstSoCalled slot) :
    ps.roles.find? (fun entry => entry.2.name == slot.param.name) = some slot.entry := by
  obtain ⟨before, after, split, earlier⟩ := first
  have passed : before.find? (fun other => other.param.name == slot.param.name) = none := by
    apply List.find?_eq_none.2
    intro other member
    simpa using earlier other member
  have found : ps.slots.find? (fun other => other.param.name == slot.param.name) = some slot := by
    have here : (slot.param.name == slot.param.name) = true := beq_self_eq_true _
    simp only [split, List.find?_append, passed, List.find?_cons, here, Option.none_or]
  rw [← map_entry_slots, List.find?_map]
  exact congrArg (Option.map Slot.entry) found

theorem SurroundingFunction.receiver?_of_firstPositional? {d : SurroundingFunction} {self : Role × Param}
    (direct : d.standsInClass = true) (bound : d.isStatic = false) (first : d.firstPositional? = some self) :
    d.receiver? = some self.2 := by
  have method : d.isMethod = true := by rw [isMethod_eq, direct, bound]; rfl
  have head : d.function.params.positional.head? = some self.2 := by
    rw [← Params.map_snd_positionalRoles, List.head?_map]
    exact congrArg (Option.map Prod.snd) first
  rw [receiver?, if_pos method, head]

def Context.standsInClass (c : Context) : Bool := (c.parent?.map Node.isClass).getD false

end TypingAudit.Ast

namespace TypingAudit.Audit

open Ast Typing Rule
open Source (Position)

section Routes

variable (types : ModuleTypes) {d : SurroundingFunction} {slot : Params.Slot} {c : Context}

theorem typeOfExpr_of_firstSoCalled (first : d.function.params.FirstSoCalled slot) (lies : c.LiesIn d) (pos : Position)
    (use : Usage) : types.typeOfExpr c (.name pos slot.param.name use) = declaredType slot := by
  have around := Context.functionAround?_of_liesIn lies
  have found := Params.find?_of_firstSoCalled first
  rw [← typeAt_slot types d first.mem]
  change ModuleTypes.typeOfName slot.param.name c =
    ModuleTypes.typeOfParam slot.param (some d.function.params) slot.role
  simp only [ModuleTypes.typeOfName, around, found]
  rfl

end Routes

section Assignments

variable {types : ModuleTypes} {facts : TypeFacts} {d : SurroundingFunction} {c : Context} {pos : Position}
  {target value : Expr}

theorem assignedName?_of_receiver {self : Param} (around : c.functionAround? = some d)
    (receiver : d.receiver? = some self) (outside : c.standsInClass = false) (start owner : Position) (attr : String)
    (use change : Usage) :
    assignedName? c (.attribute start (.name owner self.name use) attr change) = some (self.name ++ "." ++ attr) := by
  have apart : ¬(c.parent?.map Node.isClass).getD false = true := by
    change ¬c.standsInClass = true
    rw [outside]
    exact Bool.false_ne_true
  simp only [assignedName?, if_neg apart, around, receiver, Option.bind_eq_bind, Option.bind_some, beq_self_eq_true,
    if_pos]

theorem judgeDynamicField_of_assign {name : String} (shape : c.node = .stmt (.assign pos [target] value))
    (named : assignedName? c target = some name) :
    judgeDynamicField c facts = .ofPrinting (judgeType "field" name c facts) := by
  have assigns : assignment? c.node = some (target, none) := by
    rw [shape]
    rfl
  simp only [judgeDynamicField, assigns, named]
  rfl

theorem typeAt_of_assign (shape : c.node = .stmt (.assign pos [target] value)) :
    types.typeAt c = types.typeOfExpr c value := by
  simp only [ModuleTypes.typeAt, shape]

theorem reports_implicitDynamic_of_assign (unitPath : String) (shape : c.node = .stmt (.assign pos [target] value)) :
    (RuleSet.standard []).Reports unitPath facts Code.implicitDynamic c ↔
      ∃ found, judgeDynamicField c facts = .report found := by
  have noParameter : implicitDynamicParameter.applies c.node = false := by
    rw [shape]
    rfl
  have assigns : implicitDynamicField.applies c.node = true := by
    rw [shape]
    rfl
  simp [reports_implicitDynamic_cases, noParameter, assigns]

end Assignments

/-- Wherever a node lies in a function, a name there has the type of the first parameter so called, which is the type
that this declares. In a method, a field that is set from such a parameter is reported exactly when the parameter is. -/
theorem parameter_routes_agree (m : Module) (types : ModuleTypes) {d : SurroundingFunction}
    (defined : d ∈ m.definitions) {slot : Params.Slot} (first : d.function.params.FirstSoCalled slot)
    (unitPath : String) :
    ((RuleSet.standard []).audit unitPath (.tree m.tree) types.facts).value =
        .ok ⟨unitPath, (NodeTree.contexts m.tree).flatMap ((RuleSet.standard []).findingsAt unitPath types.facts)⟩ ∧
      d.parameterPlace slot.entry ∈ NodeTree.contexts m.tree ∧
      types.typeAt (d.parameterPlace slot.entry) = declaredType slot ∧
      (∀ c : Context, c.LiesIn d → ∀ pos use,
        types.typeOfExpr c (.name pos slot.param.name use) = types.typeAt (d.parameterPlace slot.entry)) ∧
      ∀ self, d.standsInClass = true → d.isStatic = false → d.firstPositional? = some self →
        self ≠ slot.entry → slot.param.typeHint = none →
        ∀ c : Context, c.LiesIn d → c.standsInClass = false →
        ∀ pos start owner place attr use change read,
          c.node = .stmt (.assign pos [.attribute start (.name owner self.2.name use) attr change]
            (.name place slot.param.name read)) →
          ((RuleSet.standard []).Reports unitPath types.facts Code.implicitDynamic c ↔
            (RuleSet.standard []).Reports unitPath types.facts Code.implicitDynamic (d.parameterPlace slot.entry)) := by
  have declared := typeAt_slot types d first.mem
  have inRoles : slot.entry ∈ d.function.params.roles := by
    rw [← d.function.params.map_entry_slots]
    exact List.mem_map_of_mem first.mem
  rw [NodeTree.contexts_eq_inOrder]
  refine ⟨RuleSet.standard_audit unitPath m.tree types.facts, Module.parameterPlace_mem_inOrder defined inRoles,
    declared, ?_, ?_⟩
  · intro c lies pos use
    rw [declared, typeOfExpr_of_firstSoCalled types first lies]
  · intro self direct bound isFirst other bare c lies outside pos start owner place attr use change read shape
    have unreceived : receives d slot.entry = false := by
      rw [Bool.eq_false_iff, Ne, receives_iff inRoles, isFirst]
      rintro ⟨-, -, same⟩
      exact other (Option.some.inj same)
    have receiver := SurroundingFunction.receiver?_of_firstPositional? direct bound isFirst
    have around := Context.functionAround?_of_liesIn lies
    have named := assignedName?_of_receiver around receiver outside start owner attr use change
    have typed : types.facts.typeAt c = .ok (some (ModuleTypes.defaultType slot.default)) :=
      (typeAt_of_assign shape).trans
        ((typeOfExpr_of_firstSoCalled types first lies place read).trans (declaredType_of_bare bare))
    rw [reports_implicitDynamic_of_assign unitPath shape, judgeDynamicField_of_assign shape named,
      judgeType_reports_iff typed, reports_implicitDynamic_bare unitPath types d first.mem bare unreceived]
    rfl

/-- A method `f(self, p, q=1)` that sets `self.a` from `p` in a branch, and `self.b` from `q`. -/
def branchedFields : Module :=
  ⟨[.classDef ⟨1, 0⟩ "A" [] []
    [.functionDef ⟨⟨2, 4⟩, false, "f",
      ⟨[], [⟨⟨2, 10⟩, "self", none⟩, ⟨⟨2, 16⟩, "p", none⟩, ⟨⟨2, 19⟩, "q", none⟩], none, [], [], none,
        [.constant ⟨2, 21⟩ (.int 1)]⟩,
      [.branch ⟨3, 8⟩ (.name ⟨3, 11⟩ "p" .load)
        [.assign ⟨4, 12⟩ [.attribute ⟨4, 12⟩ (.name ⟨4, 12⟩ "self" .load) "a" .store] (.name ⟨4, 21⟩ "p" .load)] [],
        .assign ⟨5, 8⟩ [.attribute ⟨5, 8⟩ (.name ⟨5, 8⟩ "self" .load) "b" .store] (.name ⟨5, 17⟩ "q" .load)],
      [], none⟩] []]⟩

theorem branchedFields_reported :
    ∃ d self p q, branchedFields.definitions = [d] ∧ d.function.params.slots = [self, p, q] ∧
      ∃ a ∈ NodeTree.contexts branchedFields.tree, ∃ b ∈ NodeTree.contexts branchedFields.tree,
        a.node.pos = ⟨4, 12⟩ ∧ b.node.pos = ⟨5, 8⟩ ∧
        (RuleSet.standard []).Reports "a.py" (ModuleTypes.ofImports .empty).facts Code.implicitDynamic a ∧
        ¬(RuleSet.standard []).Reports "a.py" (ModuleTypes.ofImports .empty).facts Code.implicitDynamic b := by
  rw [NodeTree.contexts_eq_inOrder]
  refine ⟨_, _, _, _, rfl, rfl, _, List.mem_of_getElem? (i := 11) rfl, _, List.mem_of_getElem? (i := 18) rfl, rfl, rfl,
    ?_, ?_⟩
  · obtain ⟨-, -, -, -, fields⟩ := parameter_routes_agree branchedFields (ModuleTypes.ofImports .empty)
      List.mem_cons_self ⟨[_], [_], rfl, by decide⟩ "a.py"
    rw [fields _ rfl rfl rfl (by rintro ⟨⟩) rfl _ ⟨[_], _, rfl, by decide⟩ rfl _ _ _ _ _ _ _ _ rfl,
      reports_implicitDynamic_bare _ _ _ (List.mem_cons_of_mem _ List.mem_cons_self) rfl rfl]
    rfl
  · obtain ⟨-, -, -, -, fields⟩ := parameter_routes_agree branchedFields (ModuleTypes.ofImports .empty)
      List.mem_cons_self ⟨[_, _], [], rfl, by decide⟩ "a.py"
    rw [fields _ rfl rfl rfl (by rintro ⟨⟩) rfl _ ⟨[], _, rfl, by decide⟩ rfl _ _ _ _ _ _ _ _ rfl,
      reports_implicitDynamic_bare _ _ _ (List.mem_cons_of_mem _ (List.mem_cons_of_mem _ List.mem_cons_self)) rfl rfl]
    with_unfolding_all decide

end TypingAudit.Audit
