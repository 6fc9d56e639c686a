import Mathlib.Data.List.Basic
import TypingAudit.Proofs.Ast.Descent

/-!
The function definitions of a module, read off its statements: an outer one comes before those in its body, and each
comes with the nodes above it. The walk through the module's tree meets a definition, then its parameters in the order
of their kinds, and then what is further inside. Parameters of lambdas, wherever they stand, belong to no definition.
-/

namespace TypingAudit.Ast

open NodeTree (IsGrown)

section Recursion

mutual

/-- The definitions in a statement at the end of the path `above`. -/
def Stmt.definitions (above : List Occurrence) (s : Stmt) : List SurroundingFunction :=
  match s with
  | .functionDef f => ⟨f, above⟩ :: f.innerDefinitions (⟨.other, .stmt s⟩ :: above)
  | .classDef _ _ _ _ body _ => definitionsIn (⟨.other, .stmt s⟩ :: above) body
  | .forLoop _ _ _ _ body orelse =>
    definitionsIn (⟨.other, .stmt s⟩ :: above) body ++ definitionsIn (⟨.other, .stmt s⟩ :: above) orelse
  | .whileLoop _ _ body orelse =>
    definitionsIn (⟨.other, .stmt s⟩ :: above) body ++ definitionsIn (⟨.other, .stmt s⟩ :: above) orelse
  | .branch _ _ body orelse =>
    definitionsIn (⟨.other, .stmt s⟩ :: above) body ++ definitionsIn (⟨.other, .stmt s⟩ :: above) orelse
  | .withBlock _ _ _ body => definitionsIn (⟨.other, .stmt s⟩ :: above) body
  | .choice _ _ cases => caseDefinitions (⟨.other, .stmt s⟩ :: above) cases
  | .tryBlock _ _ body handlers orelse finalBody =>
    definitionsIn (⟨.other, .stmt s⟩ :: above) body ++ handlerDefinitions (⟨.other, .stmt s⟩ :: above) handlers ++
      definitionsIn (⟨.other, .stmt s⟩ :: above) orelse ++ definitionsIn (⟨.other, .stmt s⟩ :: above) finalBody
  | _ => []

def FunctionDef.innerDefinitions (above : List Occurrence) : FunctionDef → List SurroundingFunction
  | ⟨_, _, _, _, body, _, _⟩ => definitionsIn above body

def definitionsIn (above : List Occurrence) : List Stmt → List SurroundingFunction
  | [] => []
  | s :: ss => s.definitions above ++ definitionsIn above ss

def Handler.definitions (above : List Occurrence) (h : Handler) : List SurroundingFunction :=
  match h with
  | ⟨_, _, _, body⟩ => definitionsIn (⟨.other, .handler h⟩ :: above) body

def handlerDefinitions (above : List Occurrence) : List Handler → List SurroundingFunction
  | [] => []
  | h :: hs => h.definitions above ++ handlerDefinitions above hs

def MatchCase.definitions (above : List Occurrence) (c : MatchCase) : List SurroundingFunction :=
  match c with
  | ⟨_, _, body⟩ => definitionsIn (⟨.other, .matchCase c⟩ :: above) body

def caseDefinitions (above : List Occurrence) : List MatchCase → List SurroundingFunction
  | [] => []
  | c :: cs => c.definitions above ++ caseDefinitions above cs

end

def Module.definitions (m : Module) : List SurroundingFunction := definitionsIn [⟨.other, .module m⟩] m.body

end Recursion

namespace SurroundingFunction

def place (d : SurroundingFunction) : Context := ⟨⟨.other, .stmt (.functionDef d.function)⟩, d.above⟩

def parameterPlace (d : SurroundingFunction) (entry : Role × Param) : Context :=
  ⟨⟨entry.1, .param entry.2⟩, ⟨.other, .params d.function.params⟩ :: d.place.value :: d.above⟩

def places (d : SurroundingFunction) : List Context := d.place :: d.function.params.roles.map d.parameterPlace

def standsInClass (d : SurroundingFunction) : Bool := (d.above.head?.map fun o => o.node.isClass).getD false

theorem isMethod_eq (d : SurroundingFunction) : d.isMethod = (d.standsInClass && !d.isStatic) := rfl

end SurroundingFunction

def Context.declares (c : Context) : Bool :=
  match c.node with
  | .stmt (.functionDef _) => true
  | .param _ => c.declaringFunction?.isSome
  | _ => false

section Roots

def Node.isPlain : Node → Bool
  | .module _ | .stmt _ | .handler _ | .matchCase _ => false
  | _ => true

/-- Whether a node is plain and no part of a signature either. -/
def Node.isApart : Node → Bool
  | .params _ | .param _ => false
  | node => node.isPlain

theorem Node.isPlain_of_isApart {node : Node} (apart : node.isApart = true) : node.isPlain = true := by
  cases node with
  | params | param => rfl
  | _ => exact apart

def AllRoots (sort : Node → Bool) (ts : List NodeTree) : Prop := ∀ t ∈ ts, sort t.value.node = true

variable {sort : Node → Bool}

@[simp] theorem allRoots_nil : AllRoots sort [] := List.forall_mem_nil _

@[simp] theorem allRoots_cons {t : NodeTree} {ts : List NodeTree} :
    AllRoots sort (t :: ts) ↔ sort t.value.node = true ∧ AllRoots sort ts :=
  List.forall_mem_cons

@[simp] theorem allRoots_append {ts us : List NodeTree} :
    AllRoots sort (ts ++ us) ↔ AllRoots sort ts ∧ AllRoots sort us :=
  List.forall_mem_append

theorem Node.value_leafTree (node : Node) : node.leafTree.value = ⟨.other, node⟩ := rfl

theorem Param.value_tree (role : Role) (p : Param) : (p.tree role).value = ⟨role, .param p⟩ := by
  unfold Param.tree
  rfl

theorem Params.value_tree (ps : Params) : ps.tree.value = ⟨.other, .params ps⟩ := by
  unfold Params.tree
  rfl

theorem Pattern.value_tree (p : Pattern) : p.tree.value = ⟨.other, .pattern p⟩ := by
  unfold Pattern.tree
  rfl

theorem allRoots_exprTrees (exprs : ∀ e, sort (.expr e) = true) (es : List Expr) : AllRoots sort (exprTrees es) := by
  induction es with
  | nil => exact allRoots_nil
  | cons e es ih => exact allRoots_cons.2 ⟨by rw [e.value_tree]; exact exprs e, ih⟩

theorem allRoots_operandTrees (exprs : ∀ e, sort (.expr e) = true) (index : Nat) (es : List Expr) :
    AllRoots sort (operandTrees index es) := by
  induction es generalizing index with
  | nil => exact allRoots_nil
  | cons e es ih => exact allRoots_cons.2 ⟨by rw [e.value_tree]; exact exprs e, ih (index + 1)⟩

theorem allRoots_optionTree (exprs : ∀ e, sort (.expr e) = true) (role : Role) (e : Option Expr) :
    AllRoots sort (optionTree role e) := by
  cases e with
  | none => exact allRoots_nil
  | some e => exact allRoots_cons.2 ⟨by rw [e.value_tree]; exact exprs e, allRoots_nil⟩

theorem allRoots_optionTrees (exprs : ∀ e, sort (.expr e) = true) (es : List (Option Expr)) :
    AllRoots sort (optionTrees es) := by
  induction es with
  | nil => exact allRoots_nil
  | cons e es ih => exact allRoots_append.2 ⟨allRoots_optionTree exprs .other e, ih⟩

theorem allRoots_paramTrees (params : ∀ p, sort (.param p) = true) (role : Nat → Role) (index : Nat)
    (ps : List Param) : AllRoots sort (paramTrees role index ps) := by
  induction ps generalizing index with
  | nil => exact allRoots_nil
  | cons p ps ih => exact allRoots_cons.2 ⟨by rw [p.value_tree]; exact params p, ih (index + 1)⟩

theorem allRoots_paramTree? (params : ∀ p, sort (.param p) = true) (role : Role) (p : Option Param) :
    AllRoots sort (paramTree? role p) := by
  cases p with
  | none => exact allRoots_nil
  | some p => exact allRoots_cons.2 ⟨by rw [p.value_tree]; exact params p, allRoots_nil⟩

theorem allRoots_keywordTrees (keywords : ∀ k, sort (.keyword k) = true) (ks : List Keyword) :
    AllRoots sort (keywordTrees ks) := by
  induction ks with
  | nil => exact allRoots_nil
  | cons k ks ih =>
    refine allRoots_cons.2 ⟨?_, ih⟩
    unfold Keyword.tree
    exact keywords k

theorem allRoots_generatorTrees (generators : ∀ g, sort (.comprehension g) = true) (gs : List Comprehension) :
    AllRoots sort (generatorTrees gs) := by
  induction gs with
  | nil => exact allRoots_nil
  | cons g gs ih =>
    refine allRoots_cons.2 ⟨?_, ih⟩
    unfold Comprehension.tree
    exact generators g

theorem allRoots_patternTrees (patterns : ∀ p, sort (.pattern p) = true) (ps : List Pattern) :
    AllRoots sort (patternTrees ps) := by
  induction ps with
  | nil => exact allRoots_nil
  | cons p ps ih => exact allRoots_cons.2 ⟨by rw [p.value_tree]; exact patterns p, ih⟩

theorem allRoots_patternTree? (patterns : ∀ p, sort (.pattern p) = true) (p : Option Pattern) :
    AllRoots sort (patternTree? p) := by
  cases p with
  | none => exact allRoots_nil
  | some p => exact allRoots_cons.2 ⟨by rw [p.value_tree]; exact patterns p, allRoots_nil⟩

theorem allRoots_leafTrees {α : Type} {node : α → Node} (leaves : ∀ a, sort (node a) = true) (items : List α) :
    AllRoots sort (items.map fun a => (node a).leafTree) :=
  List.forall_mem_map.2 fun a _ => leaves a

theorem allRoots_itemTrees (withItems : ∀ item, sort (.withItem item) = true) (items : List WithItem) :
    AllRoots sort (items.map WithItem.tree) :=
  List.forall_mem_map.2 fun item _ => withItems item

end Roots

section Plain

theorem Expr.allRoots_below (e : Expr) : AllRoots Node.isPlain (Node.expr e).below := by
  have exprs : ∀ e, Node.isPlain (.expr e) = true := fun _ => rfl
  have keywords : ∀ k, Node.isPlain (.keyword k) = true := fun _ => rfl
  have generators : ∀ g, Node.isPlain (.comprehension g) = true := fun _ => rfl
  have ops : ∀ op, Node.isPlain (.cmpOp op) = true := fun _ => rfl
  cases e <;>
    simp only [Node.below, Expr.tree, Occurrence.tree, Rose.children, List.cons_append, allRoots_cons,
      allRoots_append, allRoots_nil, Expr.value_tree, Params.value_tree, allRoots_exprTrees exprs,
      allRoots_operandTrees exprs, allRoots_optionTree exprs, allRoots_optionTrees exprs,
      allRoots_keywordTrees keywords, allRoots_generatorTrees generators, allRoots_leafTrees ops,
      Node.value_leafTree, Node.isPlain, and_true]

theorem Pattern.allRoots_below (p : Pattern) : AllRoots Node.isPlain (Node.pattern p).below := by
  have exprs : ∀ e, Node.isPlain (.expr e) = true := fun _ => rfl
  have patterns : ∀ p, Node.isPlain (.pattern p) = true := fun _ => rfl
  cases p <;>
    simp only [Node.below, Pattern.tree, Occurrence.tree, Rose.children, allRoots_cons, allRoots_append,
      allRoots_nil, Expr.value_tree, allRoots_exprTrees exprs, allRoots_patternTrees patterns,
      allRoots_patternTree? patterns, Node.isPlain, and_true]

theorem Node.allRoots_below {node : Node} (plain : node.isPlain = true) : AllRoots Node.isPlain node.below := by
  have exprs : ∀ e, Node.isPlain (.expr e) = true := fun _ => rfl
  have params : ∀ p, Node.isPlain (.param p) = true := fun _ => rfl
  cases node with
  | module | stmt | handler | matchCase => cases plain
  | expr e => exact e.allRoots_below
  | pattern p => exact p.allRoots_below
  | params ps =>
    obtain ⟨posOnly, regular, varArg, kwOnly, kwDefaults, kwArg, defaults⟩ := ps
    simp only [Node.below, Params.tree, Occurrence.tree, Rose.children, allRoots_append,
      allRoots_paramTrees params, allRoots_paramTree? params, allRoots_optionTrees exprs,
      allRoots_exprTrees exprs, and_true]
  | param p =>
    obtain ⟨pos, name, typeHint⟩ := p
    exact allRoots_optionTree exprs .typeHint typeHint
  | keyword k =>
    obtain ⟨pos, name, value⟩ := k
    exact allRoots_cons.2 ⟨by rw [value.value_tree]; rfl, allRoots_nil⟩
  | comprehension c =>
    obtain ⟨target, iter, ifs, isAsync⟩ := c
    exact allRoots_cons.2 ⟨by rw [target.value_tree]; rfl,
      allRoots_cons.2 ⟨by rw [iter.value_tree]; rfl, allRoots_exprTrees exprs ifs⟩⟩
  | withItem item =>
    exact allRoots_cons.2 ⟨by rw [item.context.value_tree]; rfl, allRoots_optionTree exprs .other item.target⟩
  | importAlias | usage | boolOp | binOp | unaryOp | cmpOp => exact allRoots_nil

end Plain

section Quiet

/-- A place from which no function definition and none of its parameters can be reached by going down. -/
structure Context.Quiet (c : Context) : Prop where
  plain : c.node.isPlain = true
  undeclared : c.declares = false
  /-- No matter what hangs under the node, it is no parameter of a definition. -/
  closed : ∀ o : Occurrence, Context.declaringFunction? ⟨o, c.value :: c.above⟩ = none

theorem declaringFunction?_of_plain {o p : Occurrence} (plain : p.node.isPlain = true) (inner : Occurrence)
    (above : List Occurrence) : Context.declaringFunction? ⟨o, inner :: p :: above⟩ = none := by
  unfold Context.declaringFunction?
  split
  next same =>
    cases same
    cases plain
  next => rfl

theorem declaringFunction?_of_isApart {o p : Occurrence} (apart : p.node.isApart = true) (above : List Occurrence) :
    Context.declaringFunction? ⟨o, p :: above⟩ = none := by
  unfold Context.declaringFunction?
  split
  next same =>
    cases same
    cases apart
  next => rfl

theorem Context.Quiet.step {c : Context} (quiet : c.Quiet) {t : NodeTree} (hangs : t ∈ c.node.below) :
    Context.Quiet ⟨t.value, c.value :: c.above⟩ where
  plain := Node.allRoots_below quiet.plain t hangs
  undeclared := by
    have plain := Node.allRoots_below quiet.plain t hangs
    have undeclared := quiet.closed t.value
    unfold Context.declares
    split
    next same =>
      change t.value.node = _ at same
      rw [same] at plain
      cases plain
    next => rw [undeclared]; rfl
    next => rfl
  closed _ := declaringFunction?_of_plain quiet.plain t.value c.above

theorem quiet_of_isApart {t : NodeTree} (apart : t.value.node.isApart = true) (above : List Occurrence) :
    Context.Quiet ⟨t.value, above⟩ where
  plain := Node.isPlain_of_isApart apart
  undeclared := by
    unfold Context.declares
    split
    next same =>
      change t.value.node = _ at same
      rw [same] at apart
      cases apart
    next same =>
      change t.value.node = _ at same
      rw [same] at apart
      cases apart
    next => rfl
  closed _ := declaringFunction?_of_isApart apart above

section Places

variable {holds : Context → Prop}

mutual

/-- What every step down from a node keeps holds at all places under a node at which it holds. -/
theorem NodeTree.IsGrown.forall_preorder
    (step : ∀ c : Context, holds c → ∀ t ∈ c.node.below, holds ⟨t.value, c.value :: c.above⟩)
    {above : List Occurrence} : {t : NodeTree} → IsGrown t → holds ⟨t.value, above⟩ → ∀ c ∈ t.preorder above, holds c
  | .node value children, grown, start => by
    have children_eq : children = value.node.below := grown
    intro c member
    rw [Rose.preorder] at member
    rcases List.mem_cons.1 member with rfl | deeper
    · exact start
    · have allGrown : AllGrown children := children_eq ▸ Node.allGrown_below value.node
      refine forall_forestPreorder step allGrown ?_ c deeper
      intro t hangs
      exact step ⟨value, above⟩ start t (children_eq ▸ hangs)

theorem forall_forestPreorder
    (step : ∀ c : Context, holds c → ∀ t ∈ c.node.below, holds ⟨t.value, c.value :: c.above⟩)
    {above : List Occurrence} : {ts : List NodeTree} → AllGrown ts → (∀ t ∈ ts, holds ⟨t.value, above⟩) →
    ∀ c ∈ Rose.forestPreorder above ts, holds c
  | [], _, _ => List.forall_mem_nil _
  | t :: ts, allGrown, start => by
    obtain ⟨grown, restGrown⟩ := allGrown_cons.1 allGrown
    obtain ⟨first, rest⟩ := List.forall_mem_cons.1 start
    rw [Rose.forestPreorder]
    exact List.forall_mem_append.2 ⟨grown.forall_preorder step first, forall_forestPreorder step restGrown rest⟩

end

end Places

end Quiet

section Walk

def declaredBelow (above : List Occurrence) (t : NodeTree) : List Context :=
  (t.preorder above).filter Context.declares

def forestDeclared (above : List Occurrence) (ts : List NodeTree) : List Context :=
  (Rose.forestPreorder above ts).filter Context.declares

@[simp] theorem forestDeclared_nil (above : List Occurrence) : forestDeclared above [] = [] := rfl

@[simp] theorem forestDeclared_cons (above : List Occurrence) (t : NodeTree) (ts : List NodeTree) :
    forestDeclared above (t :: ts) = declaredBelow above t ++ forestDeclared above ts :=
  List.filter_append ..

@[simp] theorem forestDeclared_append (above : List Occurrence) (ts us : List NodeTree) :
    forestDeclared above (ts ++ us) = forestDeclared above ts ++ forestDeclared above us := by
  induction ts with
  | nil => rfl
  | cons t ts ih => rw [List.cons_append, forestDeclared_cons, forestDeclared_cons, ih, List.append_assoc]

@[simp] theorem declaredBelow_tree {node : Node} (noFunction : ∀ f, node ≠ .stmt (.functionDef f))
    (noParam : ∀ p, node ≠ .param p) (above : List Occurrence) (role : Role) (ts : List NodeTree) :
    declaredBelow above (Occurrence.tree role node ts) = forestDeclared (⟨role, node⟩ :: above) ts := by
  have undeclared : Context.declares ⟨⟨role, node⟩, above⟩ = false := by
    unfold Context.declares
    split
    next f same => exact absurd same (noFunction f)
    next p same => exact absurd same (noParam p)
    next => rfl
  exact List.filter_cons_of_neg (by rw [undeclared]; exact Bool.false_ne_true)

theorem forestDeclared_eq_nil {ts : List NodeTree} (grown : AllGrown ts) (apart : AllRoots Node.isApart ts)
    (above : List Occurrence) : forestDeclared above ts = [] := by
  have quiet : ∀ c ∈ Rose.forestPreorder above ts, Context.Quiet c := by
    refine forall_forestPreorder (fun c quiet t hangs => Context.Quiet.step quiet hangs) grown ?_
    intro t hangs
    exact quiet_of_isApart (apart t hangs) above
  apply List.filter_eq_nil_iff.2
  intro c member
  rw [(quiet c member).undeclared]
  exact Bool.false_ne_true

theorem declaredBelow_eq_nil {t : NodeTree} (grown : IsGrown t) (apart : t.value.node.isApart = true)
    (above : List Occurrence) : declaredBelow above t = [] := by
  have single := forestDeclared_eq_nil (allGrown_cons.2 ⟨grown, allGrown_nil⟩)
    (allRoots_cons.2 ⟨apart, allRoots_nil⟩) above
  rwa [forestDeclared_cons, forestDeclared_nil, List.append_nil] at single

section Silence

variable (above : List Occurrence)

@[simp] theorem declaredBelow_expr (role : Role) (e : Expr) : declaredBelow above (e.tree role) = [] :=
  declaredBelow_eq_nil (e.isGrown_tree role) (by rw [e.value_tree]; rfl) above

@[simp] theorem declaredBelow_pattern (p : Pattern) : declaredBelow above p.tree = [] :=
  declaredBelow_eq_nil p.isGrown_tree (by rw [p.value_tree]; rfl) above

@[simp] theorem declaredBelow_binOp (op : BinOp) : declaredBelow above (Node.leafTree (.binOp op)) = [] :=
  declaredBelow_eq_nil (Node.isGrown_leafTree.2 rfl) rfl above

@[simp] theorem forestDeclared_exprTrees (es : List Expr) : forestDeclared above (exprTrees es) = [] :=
  forestDeclared_eq_nil (allGrown_exprTrees es) (allRoots_exprTrees (fun _ => rfl) es) above

@[simp] theorem forestDeclared_optionTree (role : Role) (e : Option Expr) :
    forestDeclared above (optionTree role e) = [] :=
  forestDeclared_eq_nil (allGrown_optionTree role e) (allRoots_optionTree (fun _ => rfl) role e) above

@[simp] theorem forestDeclared_optionTrees (es : List (Option Expr)) : forestDeclared above (optionTrees es) = [] :=
  forestDeclared_eq_nil (allGrown_optionTrees es) (allRoots_optionTrees (fun _ => rfl) es) above

@[simp] theorem forestDeclared_keywordTrees (ks : List Keyword) : forestDeclared above (keywordTrees ks) = [] :=
  forestDeclared_eq_nil (allGrown_keywordTrees ks) (allRoots_keywordTrees (fun _ => rfl) ks) above

@[simp] theorem forestDeclared_itemTrees (items : List WithItem) :
    forestDeclared above (items.map WithItem.tree) = [] :=
  forestDeclared_eq_nil (allGrown_itemTrees items) (allRoots_itemTrees (fun _ => rfl) items) above

@[simp] theorem forestDeclared_aliasTrees (names : List Alias) : forestDeclared above (names.map Alias.tree) = [] :=
  forestDeclared_eq_nil (allGrown_aliasTrees names) (allRoots_leafTrees (fun _ => rfl) names) above

end Silence

section Signature

variable (d : SurroundingFunction)

def SurroundingFunction.parametersAbove : List Occurrence :=
  ⟨.other, .params d.function.params⟩ :: d.place.value :: d.above

theorem declaredBelow_param (role : Role) (p : Param) :
    declaredBelow d.parametersAbove (p.tree role) = [d.parameterPlace (role, p)] := by
  obtain ⟨pos, name, typeHint⟩ := p
  have found : Context.declares (d.parameterPlace (role, ⟨pos, name, typeHint⟩)) = true := rfl
  have inside := forestDeclared_optionTree (⟨role, .param ⟨pos, name, typeHint⟩⟩ :: d.parametersAbove)
    .typeHint typeHint
  rw [Param.tree]
  exact (List.filter_cons_of_pos found).trans (congrArg _ inside)

theorem forestDeclared_paramTrees (role : Nat → Role) (index : Nat) (ps : List Param) :
    forestDeclared d.parametersAbove (paramTrees role index ps) =
      (Params.withRoles role index ps).map d.parameterPlace := by
  induction ps generalizing index with
  | nil => rfl
  | cons p ps ih =>
    rw [paramTrees, forestDeclared_cons, declaredBelow_param, ih, Params.withRoles]
    rfl

theorem forestDeclared_paramTree? (role : Role) (p : Option Param) :
    forestDeclared d.parametersAbove (paramTree? role p) = (p.toList.map (role, ·)).map d.parameterPlace := by
  cases p with
  | none => rfl
  | some p =>
    rw [paramTree?, forestDeclared_cons, declaredBelow_param, forestDeclared_nil]
    rfl

/-- The trees under a parameter list: the defaults of keyword-only parameters come between the parameters. -/
def Params.trees (ps : Params) : List NodeTree :=
  paramTrees .posOnly 0 ps.posOnly ++ paramTrees .regular 0 ps.regular ++ paramTree? .varArg ps.varArg ++
    paramTrees .kwOnly 0 ps.kwOnly ++ optionTrees ps.kwDefaults ++ paramTree? .kwArg ps.kwArg ++ exprTrees ps.defaults

theorem Params.tree_eq (ps : Params) : ps.tree = Occurrence.tree .other (.params ps) ps.trees := by
  cases ps
  rw [Params.tree]
  rfl

/-- In a signature the parameters of the definition are met in the order of their kinds, and no others. -/
theorem declaredBelow_params :
    declaredBelow (d.place.value :: d.above) d.function.params.tree =
      d.function.params.roles.map d.parameterPlace := by
  have signature : declaredBelow (d.place.value :: d.above) d.function.params.tree =
      forestDeclared d.parametersAbove d.function.params.trees := by
    rw [Params.tree_eq]
    exact declaredBelow_tree (by simp) (by simp) _ _ _
  rw [signature]
  simp only [Params.trees, forestDeclared_append, forestDeclared_paramTrees, forestDeclared_paramTree?,
    forestDeclared_optionTrees, forestDeclared_exprTrees, List.append_nil, Params.roles, List.map_append]

end Signature

mutual

/-- The walk through a statement meets its definitions in order, each followed by its parameters. -/
theorem Stmt.declared_tree (above : List Occurrence) : (s : Stmt) →
    declaredBelow above s.tree = (s.definitions above).flatMap SurroundingFunction.places
  | .functionDef f => by
    have found : Context.declares ⟨⟨.other, .stmt (.functionDef f)⟩, above⟩ = true := rfl
    have inside := f.declared_trees above
    rw [Stmt.tree, Stmt.definitions, List.flatMap_cons]
    exact (List.filter_cons_of_pos found).trans (congrArg _ inside)
  | .classDef pos name bases keywords body decorators => by
    simp [Stmt.tree, Stmt.definitions, declared_stmtTrees _ body]
  | .forLoop pos isAsync target iter body orelse => by
    simp [Stmt.tree, Stmt.definitions, declared_stmtTrees _ body, declared_stmtTrees _ orelse]
  | .whileLoop pos test body orelse => by
    simp [Stmt.tree, Stmt.definitions, declared_stmtTrees _ body, declared_stmtTrees _ orelse]
  | .branch pos test body orelse => by
    simp [Stmt.tree, Stmt.definitions, declared_stmtTrees _ body, declared_stmtTrees _ orelse]
  | .withBlock pos isAsync items body => by
    simp [Stmt.tree, Stmt.definitions, declared_stmtTrees _ body]
  | .choice pos subject cases => by
    simp [Stmt.tree, Stmt.definitions, declared_caseTrees _ cases]
  | .tryBlock pos isStar body handlers orelse finalBody => by
    simp [Stmt.tree, Stmt.definitions, declared_stmtTrees _ body,
      declared_handlerTrees _ handlers, declared_stmtTrees _ orelse, declared_stmtTrees _ finalBody]
  | .ret .. | .delete .. | .assign .. | .augAssign .. | .annAssign .. | .raise .. | .assert .. | .importNames ..
  | .importFrom .. | .globalNames .. | .nonlocalNames .. | .expr .. | .pass .. | .breakLoop .. | .continueLoop .. => by
    simp [Stmt.tree, Stmt.definitions]

theorem FunctionDef.declared_trees (above : List Occurrence) : (f : FunctionDef) →
    forestDeclared (⟨.other, .stmt (.functionDef f)⟩ :: above) f.trees =
      f.params.roles.map (SurroundingFunction.parameterPlace ⟨f, above⟩) ++
        (f.innerDefinitions (⟨.other, .stmt (.functionDef f)⟩ :: above)).flatMap SurroundingFunction.places
  | ⟨pos, isAsync, name, params, body, decorators, returns⟩ => by
    have signature := declaredBelow_params ⟨⟨pos, isAsync, name, params, body, decorators, returns⟩, above⟩
    simp only [SurroundingFunction.place] at signature
    simp [FunctionDef.trees, FunctionDef.innerDefinitions, signature, declared_stmtTrees _ body]

theorem declared_stmtTrees (above : List Occurrence) : (ss : List Stmt) →
    forestDeclared above (stmtTrees ss) = (definitionsIn above ss).flatMap SurroundingFunction.places
  | [] => rfl
  | s :: ss => by
    simp [stmtTrees, definitionsIn, s.declared_tree above, declared_stmtTrees above ss]

theorem Handler.declared_tree (above : List Occurrence) : (h : Handler) →
    declaredBelow above h.tree = (h.definitions above).flatMap SurroundingFunction.places
  | ⟨pos, type, name, body⟩ => by
    simp [Handler.tree, Handler.definitions, declared_stmtTrees _ body]

theorem declared_handlerTrees (above : List Occurrence) : (hs : List Handler) →
    forestDeclared above (handlerTrees hs) = (handlerDefinitions above hs).flatMap SurroundingFunction.places
  | [] => rfl
  | h :: hs => by
    simp [handlerTrees, handlerDefinitions, h.declared_tree above, declared_handlerTrees above hs]

theorem MatchCase.declared_tree (above : List Occurrence) : (c : MatchCase) →
    declaredBelow above c.tree = (c.definitions above).flatMap SurroundingFunction.places
  | ⟨pattern, guard, body⟩ => by
    simp [MatchCase.tree, MatchCase.definitions, declared_stmtTrees _ body]

theorem declared_caseTrees (above : List Occurrence) : (cs : List MatchCase) →
    forestDeclared above (caseTrees cs) = (caseDefinitions above cs).flatMap SurroundingFunction.places
  | [] => rfl
  | c :: cs => by
    simp [caseTrees, caseDefinitions, c.declared_tree above, declared_caseTrees above cs]

end

end Walk

namespace Module

variable (m : Module)

theorem filter_declares_inOrder :
    (NodeTree.inOrder m.tree).filter Context.declares = m.definitions.flatMap SurroundingFunction.places := by
  have whole : (NodeTree.inOrder m.tree).filter Context.declares =
      forestDeclared [⟨.other, .module m⟩] (stmtTrees m.body) :=
    List.filter_cons_of_neg Bool.false_ne_true
  rw [whole, declared_stmtTrees]
  rfl

/-- What is picked at definitions and their parameters only is picked definition by definition. -/
theorem filterMap_inOrder {α : Type} {pick : Context → Option α}
    (only : ∀ c, c.declares = false → pick c = none) :
    (NodeTree.inOrder m.tree).filterMap pick = m.definitions.flatMap fun d => d.places.filterMap pick := by
  rw [← List.filterMap_flatMap, ← filter_declares_inOrder, List.filterMap_filter]
  apply List.filterMap_congr
  intro c _
  by_cases declares : c.declares = true
  · rw [if_pos declares]
  · rw [if_neg declares]
    exact only c (by simpa using declares)

theorem declares_of_function? {c : Context} (defines : c.node.function?.isSome = true) : c.declares = true := by
  obtain ⟨f, found⟩ := Option.isSome_iff_exists.1 defines
  unfold Node.function? at found
  split at found
  next g same =>
    unfold Context.declares
    rw [same]
  next => cases found

theorem filter_function_contexts :
    (NodeTree.contexts m.tree).filter (fun c => c.node.function?.isSome) =
      m.definitions.map SurroundingFunction.place := by
  have within : (NodeTree.inOrder m.tree).filter (fun c => c.node.function?.isSome) =
      ((NodeTree.inOrder m.tree).filter Context.declares).filter fun c => c.node.function?.isSome := by
    rw [List.filter_filter]
    apply List.filter_congr
    intro c _
    by_cases defines : c.node.function?.isSome = true
    · rw [defines, declares_of_function? defines]
      rfl
    · rw [Bool.eq_false_iff.2 defines, Bool.false_and]
  have each : ∀ d : SurroundingFunction, d.places.filter (fun c => c.node.function?.isSome) = [d.place] := by
    intro d
    have parameters : (d.function.params.roles.map d.parameterPlace).filter
        (fun c => c.node.function?.isSome) = [] := by
      apply List.filter_eq_nil_iff.2
      intro c member
      obtain ⟨entry, -, rfl⟩ := List.mem_map.1 member
      exact Bool.false_ne_true
    rw [SurroundingFunction.places, List.filter_cons_of_pos rfl, parameters]
  rw [NodeTree.contexts_eq_inOrder, within, filter_declares_inOrder, List.filter_flatMap, List.map_eq_flatMap]
  congr 1
  funext d
  exact each d

variable {m} {d : SurroundingFunction}

theorem places_subset_inOrder (defined : d ∈ m.definitions) {c : Context} (member : c ∈ d.places) :
    c ∈ NodeTree.inOrder m.tree := by
  have among : c ∈ m.definitions.flatMap SurroundingFunction.places := List.mem_flatMap.2 ⟨d, defined, member⟩
  rw [← filter_declares_inOrder] at among
  exact (List.mem_filter.1 among).1

theorem parameterPlace_mem_inOrder (defined : d ∈ m.definitions) {entry : Role × Param}
    (listed : entry ∈ d.function.params.roles) : d.parameterPlace entry ∈ NodeTree.inOrder m.tree :=
  places_subset_inOrder defined (List.mem_cons_of_mem _ (List.mem_map_of_mem listed))

end Module

end TypingAudit.Ast
