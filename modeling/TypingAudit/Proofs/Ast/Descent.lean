import TypingAudit.Proofs.Ast.Preorder

/-!
What hangs under a node of a syntax tree is settled by the node itself, wherever it occurs. So all that an
expression is made of occurs in every tree in which the expression does.
-/

namespace TypingAudit.Ast

namespace Rose

variable {α : Type}

theorem value_mem_forestValues {t : Rose α} {ts : List (Rose α)} (member : t ∈ ts) : t.value ∈ forestValues ts := by
  induction member with
  | head =>
    cases t
    exact List.mem_append_left _ List.mem_cons_self
  | tail _ _ ih => exact List.mem_append_right _ ih

mutual

theorem map_value_preorder (above : List α) : (t : Rose α) → (t.preorder above).map Place.value = t.values
  | .node v cs => by rw [preorder, values, List.map_cons, map_value_forestPreorder (v :: above) cs]

theorem map_value_forestPreorder (above : List α) :
    (ts : List (Rose α)) → (forestPreorder above ts).map Place.value = forestValues ts
  | [] => rfl
  | t :: ts => by
    rw [forestPreorder, forestValues, List.map_append, map_value_preorder above t, map_value_forestPreorder above ts]

end

theorem forestValues_perm (ts : List (Rose α)) :
    (forestValues ts).Perm (ts.map value ++ forestValues (ts.flatMap children)) := by
  induction ts with
  | nil => exact .refl _
  | cons t ts ih =>
    obtain ⟨root, cs⟩ := t
    rw [List.flatMap_cons, forestValues_append]
    have moved : (forestValues cs ++ forestValues ts).Perm
        (ts.map value ++ (forestValues cs ++ forestValues (ts.flatMap children))) :=
      (ih.append_left _).trans (List.perm_append_comm_assoc _ _ _)
    exact moved.cons root

theorem levelsFrom_perm (ts : List (Rose α)) : (levelsFrom ts).Perm (forestValues ts) := by
  induction ts using levelsFrom.induct with
  | case1 => simp [levelsFrom, forestValues]
  | case2 t ts ih =>
    rw [levelsFrom]
    exact (ih.append_left _).trans (forestValues_perm (t :: ts)).symm

end Rose

namespace NodeTree

theorem mem_nodesByLevel {t : NodeTree} {node : Node} : node ∈ t.nodesByLevel ↔ ∃ o ∈ t.values, o.node = node := by
  simp only [nodesByLevel, List.mem_map, Rose.levels, (Rose.levelsFrom_perm [t]).mem_iff, Rose.forestValues,
    List.append_nil]

/-- Going through a tree level by level comes to the same nodes as going through it from the top. -/
theorem mem_nodesByLevel_iff_contexts {t : NodeTree} {node : Node} :
    node ∈ t.nodesByLevel ↔ ∃ c ∈ contexts t, c.node = node := by
  have places : (contexts t).map Rose.Place.value = t.values := by
    rw [contexts_eq_inOrder]
    exact Rose.map_value_preorder [] t
  simp only [mem_nodesByLevel, ← places, List.mem_map]
  constructor
  · rintro ⟨_, ⟨c, occurs, rfl⟩, rfl⟩
    exact ⟨c, occurs, rfl⟩
  · rintro ⟨c, occurs, rfl⟩
    exact ⟨c.value, ⟨c, occurs, rfl⟩, rfl⟩

end NodeTree

def Node.below : Node → List NodeTree
  | .module m => m.tree.children
  | .stmt s => s.tree.children
  | .expr e => (e.tree .other).children
  | .params ps => ps.tree.children
  | .param p => (p.tree .other).children
  | .keyword k => k.tree.children
  | .comprehension c => c.tree.children
  | .handler h => h.tree.children
  | .withItem item => item.tree.children
  | .matchCase c => c.tree.children
  | .pattern p => p.tree.children
  | .importAlias _ | .usage _ | .boolOp _ | .binOp _ | .unaryOp _ | .cmpOp _ => []

/-- Under the root of a tree hangs what its node calls for. -/
def NodeTree.IsGrown (t : NodeTree) : Prop := t.children = t.value.node.below

open NodeTree (IsGrown)

def AllGrown (ts : List NodeTree) : Prop := ∀ t ∈ ts, IsGrown t

@[simp] theorem allGrown_nil : AllGrown [] := List.forall_mem_nil _

@[simp] theorem allGrown_cons {t : NodeTree} {ts : List NodeTree} :
    AllGrown (t :: ts) ↔ IsGrown t ∧ AllGrown ts :=
  List.forall_mem_cons

@[simp] theorem allGrown_append {ts us : List NodeTree} : AllGrown (ts ++ us) ↔ AllGrown ts ∧ AllGrown us :=
  List.forall_mem_append

section Grown

theorem Expr.isGrown_tree (role : Role) (e : Expr) : IsGrown (e.tree role) := by
  cases e <;> rfl

theorem Param.isGrown_tree (role : Role) (p : Param) : IsGrown (p.tree role) := by
  cases p
  rfl

theorem Params.isGrown_tree (ps : Params) : IsGrown ps.tree := by
  cases ps
  rfl

theorem Keyword.isGrown_tree (k : Keyword) : IsGrown k.tree := by
  cases k
  rfl

theorem Comprehension.isGrown_tree (c : Comprehension) : IsGrown c.tree := by
  cases c
  rfl

theorem Pattern.isGrown_tree (p : Pattern) : IsGrown p.tree := by
  cases p <;> rfl

theorem WithItem.isGrown_tree (item : WithItem) : IsGrown item.tree := rfl

theorem Stmt.isGrown_tree (s : Stmt) : IsGrown s.tree := by
  cases s <;> rfl

theorem Handler.isGrown_tree (h : Handler) : IsGrown h.tree := by
  cases h
  rfl

theorem MatchCase.isGrown_tree (c : MatchCase) : IsGrown c.tree := by
  cases c
  rfl

theorem Module.isGrown_tree (m : Module) : IsGrown m.tree := rfl

theorem Node.isGrown_leafTree {node : Node} : IsGrown node.leafTree ↔ node.below = [] := ⟨Eq.symm, Eq.symm⟩

end Grown

section Forests

theorem allGrown_exprTrees : (es : List Expr) → AllGrown (exprTrees es)
  | [] => allGrown_nil
  | e :: es => allGrown_cons.2 ⟨e.isGrown_tree .other, allGrown_exprTrees es⟩

theorem allGrown_operandTrees (index : Nat) : (es : List Expr) → AllGrown (operandTrees index es)
  | [] => allGrown_nil
  | e :: es => allGrown_cons.2 ⟨e.isGrown_tree (.operand index), allGrown_operandTrees (index + 1) es⟩

theorem allGrown_optionTree (role : Role) : (e : Option Expr) → AllGrown (optionTree role e)
  | none => allGrown_nil
  | some e => allGrown_cons.2 ⟨e.isGrown_tree role, allGrown_nil⟩

theorem allGrown_optionTrees : (es : List (Option Expr)) → AllGrown (optionTrees es)
  | [] => allGrown_nil
  | e :: es => allGrown_append.2 ⟨allGrown_optionTree .other e, allGrown_optionTrees es⟩

theorem allGrown_paramTrees (role : Nat → Role) (index : Nat) :
    (ps : List Param) → AllGrown (paramTrees role index ps)
  | [] => allGrown_nil
  | p :: ps => allGrown_cons.2 ⟨p.isGrown_tree (role index), allGrown_paramTrees role (index + 1) ps⟩

theorem allGrown_paramTree? (role : Role) : (p : Option Param) → AllGrown (paramTree? role p)
  | none => allGrown_nil
  | some p => allGrown_cons.2 ⟨p.isGrown_tree role, allGrown_nil⟩

theorem allGrown_keywordTrees : (ks : List Keyword) → AllGrown (keywordTrees ks)
  | [] => allGrown_nil
  | k :: ks => allGrown_cons.2 ⟨k.isGrown_tree, allGrown_keywordTrees ks⟩

theorem allGrown_generatorTrees : (gs : List Comprehension) → AllGrown (generatorTrees gs)
  | [] => allGrown_nil
  | g :: gs => allGrown_cons.2 ⟨g.isGrown_tree, allGrown_generatorTrees gs⟩

theorem allGrown_patternTrees : (ps : List Pattern) → AllGrown (patternTrees ps)
  | [] => allGrown_nil
  | p :: ps => allGrown_cons.2 ⟨p.isGrown_tree, allGrown_patternTrees ps⟩

theorem allGrown_patternTree? : (p : Option Pattern) → AllGrown (patternTree? p)
  | none => allGrown_nil
  | some p => allGrown_cons.2 ⟨p.isGrown_tree, allGrown_nil⟩

theorem allGrown_stmtTrees : (ss : List Stmt) → AllGrown (stmtTrees ss)
  | [] => allGrown_nil
  | s :: ss => allGrown_cons.2 ⟨s.isGrown_tree, allGrown_stmtTrees ss⟩

theorem allGrown_handlerTrees : (hs : List Handler) → AllGrown (handlerTrees hs)
  | [] => allGrown_nil
  | h :: hs => allGrown_cons.2 ⟨h.isGrown_tree, allGrown_handlerTrees hs⟩

theorem allGrown_caseTrees : (cs : List MatchCase) → AllGrown (caseTrees cs)
  | [] => allGrown_nil
  | c :: cs => allGrown_cons.2 ⟨c.isGrown_tree, allGrown_caseTrees cs⟩

theorem allGrown_aliasTrees (names : List Alias) : AllGrown (names.map Alias.tree) :=
  List.forall_mem_map.2 fun _ _ => Node.isGrown_leafTree.2 rfl

theorem allGrown_itemTrees (items : List WithItem) : AllGrown (items.map WithItem.tree) :=
  List.forall_mem_map.2 fun item _ => item.isGrown_tree

theorem allGrown_cmpOps (ops : List CmpOp) : AllGrown (ops.map fun op => Node.leafTree (.cmpOp op)) :=
  List.forall_mem_map.2 fun _ _ => Node.isGrown_leafTree.2 rfl

theorem FunctionDef.allGrown_trees (f : FunctionDef) : AllGrown f.trees := by
  obtain ⟨pos, isAsync, name, params, body, decorators, returns⟩ := f
  simp only [FunctionDef.trees, allGrown_cons, allGrown_append]
  exact ⟨params.isGrown_tree, ⟨allGrown_stmtTrees body, allGrown_exprTrees decorators⟩,
    allGrown_optionTree .returns returns⟩

end Forests

section Step

theorem Expr.allGrown_below (e : Expr) : AllGrown (Node.expr e).below := by
  cases e <;>
    simp only [Node.below, Expr.tree, Occurrence.tree, Rose.children, List.cons_append, allGrown_cons,
      allGrown_append, allGrown_nil, Expr.isGrown_tree, Params.isGrown_tree, allGrown_exprTrees,
      allGrown_operandTrees, allGrown_optionTree, allGrown_optionTrees, allGrown_keywordTrees,
      allGrown_generatorTrees, allGrown_cmpOps, Node.isGrown_leafTree, and_true]

theorem Pattern.allGrown_below (p : Pattern) : AllGrown (Node.pattern p).below := by
  cases p <;>
    simp only [Node.below, Pattern.tree, Occurrence.tree, Rose.children, allGrown_cons,
      allGrown_append, allGrown_nil, Expr.isGrown_tree, allGrown_exprTrees,
      allGrown_patternTrees, allGrown_patternTree?, and_true]

theorem Stmt.allGrown_below (s : Stmt) : AllGrown (Node.stmt s).below := by
  cases s <;>
    simp only [Node.below, Stmt.tree, Occurrence.tree, Rose.children, allGrown_cons,
      allGrown_append, allGrown_nil, Expr.isGrown_tree, FunctionDef.allGrown_trees,
      allGrown_exprTrees, allGrown_optionTree, allGrown_keywordTrees, allGrown_stmtTrees,
      allGrown_handlerTrees, allGrown_caseTrees, allGrown_aliasTrees, allGrown_itemTrees,
      Node.isGrown_leafTree, and_true]

theorem Node.allGrown_below (node : Node) : AllGrown node.below := by
  cases node with
  | module m => exact allGrown_stmtTrees m.body
  | stmt s => exact s.allGrown_below
  | expr e => exact e.allGrown_below
  | params ps =>
    obtain ⟨posOnly, regular, varArg, kwOnly, kwDefaults, kwArg, defaults⟩ := ps
    simp only [Node.below, Params.tree, Occurrence.tree, Rose.children, allGrown_append,
      allGrown_paramTrees, allGrown_paramTree?, allGrown_optionTrees, allGrown_exprTrees,
      and_true]
  | param p =>
    obtain ⟨pos, name, typeHint⟩ := p
    exact allGrown_optionTree .typeHint typeHint
  | keyword k =>
    obtain ⟨pos, name, value⟩ := k
    exact allGrown_cons.2 ⟨value.isGrown_tree .other, allGrown_nil⟩
  | comprehension c =>
    obtain ⟨target, iter, ifs, isAsync⟩ := c
    exact allGrown_cons.2 ⟨target.isGrown_tree .other,
      allGrown_cons.2 ⟨iter.isGrown_tree .other, allGrown_exprTrees ifs⟩⟩
  | handler h =>
    obtain ⟨pos, type, name, body⟩ := h
    exact allGrown_append.2 ⟨allGrown_optionTree .other type, allGrown_stmtTrees body⟩
  | withItem item =>
    exact allGrown_cons.2 ⟨item.context.isGrown_tree .other, allGrown_optionTree .other item.target⟩
  | matchCase c =>
    obtain ⟨pattern, guard, body⟩ := c
    exact allGrown_cons.2 ⟨pattern.isGrown_tree,
      allGrown_append.2 ⟨allGrown_optionTree .other guard, allGrown_stmtTrees body⟩⟩
  | pattern p => exact p.allGrown_below
  | importAlias | usage | boolOp | binOp | unaryOp | cmpOp => exact allGrown_nil

end Step

section Descent

mutual

theorem NodeTree.IsGrown.value_mem {o : Occurrence} {under : NodeTree} : {t : NodeTree} → IsGrown t →
    o ∈ t.values → under ∈ o.node.below → under.value ∈ t.values
  | .node value children, grown, occurs, hangs => by
    have children_eq : children = value.node.below := grown
    rw [Rose.values] at occurs ⊢
    rcases List.mem_cons.1 occurs with rfl | deeper
    · exact List.mem_cons_of_mem _ (Rose.value_mem_forestValues (children_eq ▸ hangs))
    · have allGrown : AllGrown children := children_eq ▸ Node.allGrown_below value.node
      exact List.mem_cons_of_mem _ (value_mem_of_forest allGrown deeper hangs)

theorem value_mem_of_forest {o : Occurrence} {under : NodeTree} : {ts : List NodeTree} → AllGrown ts →
    o ∈ Rose.forestValues ts → under ∈ o.node.below → under.value ∈ Rose.forestValues ts
  | [], _, occurs, _ => by cases occurs
  | t :: ts, allGrown, occurs, hangs => by
    obtain ⟨grown, restGrown⟩ := allGrown_cons.1 allGrown
    rw [Rose.forestValues] at occurs ⊢
    rcases List.mem_append.1 occurs with here | later
    · exact List.mem_append_left _ (grown.value_mem here hangs)
    · exact List.mem_append_right _ (value_mem_of_forest restGrown later hangs)

end

/-- All that hangs directly under a node of a module is a node of the module. -/
theorem Module.node_mem_of_below {m : Module} {node : Node} {under : NodeTree}
    (occurs : node ∈ NodeTree.nodesByLevel m.tree) (hangs : under ∈ node.below) :
    under.value.node ∈ NodeTree.nodesByLevel m.tree := by
  obtain ⟨o, valueOccurs, rfl⟩ := NodeTree.mem_nodesByLevel.1 occurs
  exact NodeTree.mem_nodesByLevel.2 ⟨under.value, m.isGrown_tree.value_mem valueOccurs hangs, rfl⟩

theorem Expr.value_tree (role : Role) (e : Expr) : (e.tree role).value = ⟨role, .expr e⟩ := by
  unfold Expr.tree
  rfl

theorem Module.expr_mem_of_below {m : Module} {node : Node} {role : Role} {e : Expr}
    (occurs : node ∈ NodeTree.nodesByLevel m.tree) (hangs : e.tree role ∈ node.below) :
    .expr e ∈ NodeTree.nodesByLevel m.tree := by
  have occursBelow := Module.node_mem_of_below occurs hangs
  rwa [Expr.value_tree] at occursBelow

theorem value_mem_below (pos : Source.Position) (value : Expr) (attr : String) (usage : Usage) :
    value.tree .other ∈ (Node.expr (.attribute pos value attr usage)).below := by
  rw [Node.below, Expr.tree]
  exact List.mem_cons_self

theorem func_mem_below (pos : Source.Position) (func : Expr) (args : List Expr) (keywords : List Keyword) :
    func.tree .other ∈ (Node.expr (.call pos func args keywords)).below := by
  rw [Node.below, Expr.tree]
  exact List.mem_cons_self

end Descent

end TypingAudit.Ast
