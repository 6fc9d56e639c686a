import TypingAudit.Proofs.Ast.Preorder
import TypingAudit.Proofs.Ast.Relabelling

/-!
The tree of a module and that of the module with its labels changed. They have the same form, so that their nodes
correspond one by one, from the top as well as level by level.
-/

namespace TypingAudit.Ast

namespace Rose

variable {α β : Type}

mutual

def map (f : α → β) : Rose α → Rose β
  | .node v cs => .node (f v) (mapForest f cs)

def mapForest (f : α → β) : List (Rose α) → List (Rose β)
  | [] => []
  | t :: ts => t.map f :: mapForest f ts

end

theorem mapForest_append (f : α → β) (ts us : List (Rose α)) :
    mapForest f (ts ++ us) = mapForest f ts ++ mapForest f us := by
  induction ts with
  | nil => rfl
  | cons t ts ih => rw [List.cons_append, mapForest, ih, mapForest, List.cons_append]

theorem value_map (f : α → β) (t : Rose α) : (t.map f).value = f t.value := by
  cases t
  rfl

theorem children_map (f : α → β) (t : Rose α) : (t.map f).children = mapForest f t.children := by
  cases t
  rfl

theorem map_value_mapForest (f : α → β) (ts : List (Rose α)) :
    (mapForest f ts).map value = (ts.map value).map f := by
  induction ts with
  | nil => rfl
  | cons t ts ih => rw [mapForest, List.map_cons, List.map_cons, List.map_cons, ih, value_map]

theorem flatMap_children_mapForest (f : α → β) (ts : List (Rose α)) :
    (mapForest f ts).flatMap children = mapForest f (ts.flatMap children) := by
  induction ts with
  | nil => rfl
  | cons t ts ih =>
    rw [mapForest, List.flatMap_cons, List.flatMap_cons, ih, mapForest_append, children_map]

theorem levelsFrom_map (f : α → β) (ts : List (Rose α)) : levelsFrom (mapForest f ts) = (levelsFrom ts).map f := by
  induction ts using levelsFrom.induct with
  | case1 => simp [mapForest, levelsFrom]
  | case2 t ts ih =>
    rw [levelsFrom, List.map_append, ← ih, ← flatMap_children_mapForest, ← map_value_mapForest, mapForest, levelsFrom]

mutual

theorem preorder_map (f : α → β) (above : List α) :
    (t : Rose α) → (t.map f).preorder (above.map f) = (t.preorder above).map fun c => ⟨f c.value, c.above.map f⟩
  | .node v cs => by
    rw [map, preorder, preorder, List.map_cons, ← List.map_cons, forestPreorder_map f (v :: above) cs]

theorem forestPreorder_map (f : α → β) (above : List α) :
    (ts : List (Rose α)) → forestPreorder (above.map f) (mapForest f ts) =
      (forestPreorder above ts).map fun c => ⟨f c.value, c.above.map f⟩
  | [] => rfl
  | t :: ts => by
    rw [mapForest, forestPreorder, forestPreorder, List.map_append, preorder_map f above t,
      forestPreorder_map f above ts]

end

end Rose

section Trees

open Rose (mapForest mapForest_append)

theorem map_tree (r : Relabelling) (role : Role) (node : Node) (ts : List NodeTree) :
    (Occurrence.tree role node ts).map (Occurrence.relabel r) =
      Occurrence.tree role (node.relabel r) (mapForest (Occurrence.relabel r) ts) :=
  rfl

theorem map_leafTree (r : Relabelling) (node : Node) :
    node.leafTree.map (Occurrence.relabel r) = (node.relabel r).leafTree :=
  rfl

theorem mapForest_map {α : Type} (r : Relabelling) (tree : α → NodeTree) (items : List α) :
    mapForest (Occurrence.relabel r) (items.map tree) = items.map fun a => (tree a).map (Occurrence.relabel r) := by
  induction items with
  | nil => rfl
  | cons a items ih => rw [List.map_cons, mapForest, ih, List.map_cons]

theorem mapForest_ops (r : Relabelling) (ops : List CmpOp) :
    mapForest (Occurrence.relabel r) (ops.map fun op => Node.leafTree (.cmpOp op)) =
      ops.map fun op => Node.leafTree (.cmpOp op) := by
  rw [mapForest_map]
  rfl

mutual

theorem Expr.tree_relabel (r : Relabelling) (role : Role) :
    (e : Expr) → (e.relabel r).tree role = (e.tree role).map (Occurrence.relabel r)
  | .boolOp pos op values => by
    simp only [Expr.relabel, Expr.tree, map_tree, Node.relabel, mapForest, map_leafTree,
      operandTrees_relabel r 0 values]
  | .named pos target value => by
    simp only [Expr.relabel, Expr.tree, map_tree, Node.relabel, mapForest, target.tree_relabel r .other,
      value.tree_relabel r .other]
  | .binOp pos left op right => by
    simp only [Expr.relabel, Expr.tree, map_tree, Node.relabel, mapForest, map_leafTree, left.tree_relabel r .other,
      right.tree_relabel r .other]
  | .unaryOp pos op operand => by
    simp only [Expr.relabel, Expr.tree, map_tree, Node.relabel, mapForest, map_leafTree,
      operand.tree_relabel r .other]
  | .lambda pos params body => by
    simp only [Expr.relabel, Expr.tree, map_tree, Node.relabel, mapForest, params.tree_relabel r,
      body.tree_relabel r .other]
  | .ifExp pos test body orelse => by
    simp only [Expr.relabel, Expr.tree, map_tree, Node.relabel, mapForest, test.tree_relabel r .other,
      body.tree_relabel r .thenBranch, orelse.tree_relabel r .elseBranch]
  | .dict pos keys values => by
    simp only [Expr.relabel, Expr.tree, map_tree, Node.relabel, mapForest_append,
      optionTrees_relabel r keys, exprTrees_relabel r values]
  | .set pos elts => by
    simp only [Expr.relabel, Expr.tree, map_tree, Node.relabel, exprTrees_relabel r elts]
  | .listComp pos elt generators => by
    simp only [Expr.relabel, Expr.tree, map_tree, Node.relabel, mapForest, elt.tree_relabel r .other,
      generatorTrees_relabel r generators]
  | .setComp pos elt generators => by
    simp only [Expr.relabel, Expr.tree, map_tree, Node.relabel, mapForest, elt.tree_relabel r .other,
      generatorTrees_relabel r generators]
  | .dictComp pos key value generators => by
    simp only [Expr.relabel, Expr.tree, map_tree, Node.relabel, mapForest, key.tree_relabel r .other,
      value.tree_relabel r .other, generatorTrees_relabel r generators]
  | .generator pos elt generators => by
    simp only [Expr.relabel, Expr.tree, map_tree, Node.relabel, mapForest, elt.tree_relabel r .other,
      generatorTrees_relabel r generators]
  | .await pos value => by
    simp only [Expr.relabel, Expr.tree, map_tree, Node.relabel, mapForest, value.tree_relabel r .other]
  | .yield pos value => by
    simp only [Expr.relabel, Expr.tree, map_tree, Node.relabel, optionTree_relabel r .other value]
  | .yieldFrom pos value => by
    simp only [Expr.relabel, Expr.tree, map_tree, Node.relabel, mapForest, value.tree_relabel r .other]
  | .compare pos left ops comparators => by
    simp only [Expr.relabel, Expr.tree, map_tree, Node.relabel, mapForest, mapForest_append, mapForest_ops,
      left.tree_relabel r .other, exprTrees_relabel r comparators]
  | .call pos func args keywords => by
    simp only [Expr.relabel, Expr.tree, map_tree, Node.relabel, mapForest, mapForest_append,
      func.tree_relabel r .other, exprTrees_relabel r args, keywordTrees_relabel r keywords]
  | .formatted pos value conversion spec => by
    simp only [Expr.relabel, Expr.tree, map_tree, Node.relabel, mapForest, value.tree_relabel r .other,
      optionTree_relabel r .other spec]
  | .joined pos values => by
    simp only [Expr.relabel, Expr.tree, map_tree, Node.relabel, exprTrees_relabel r values]
  | .constant pos value => by
    simp only [Expr.relabel, Expr.tree, map_tree, Node.relabel, mapForest]
  | .attribute pos value attr usage => by
    simp only [Expr.relabel, Expr.tree, map_tree, Node.relabel, mapForest, map_leafTree, value.tree_relabel r .other]
  | .subscript pos value index usage => by
    simp only [Expr.relabel, Expr.tree, map_tree, Node.relabel, mapForest, map_leafTree, value.tree_relabel r .other,
      index.tree_relabel r .other]
  | .starred pos value usage => by
    simp only [Expr.relabel, Expr.tree, map_tree, Node.relabel, mapForest, map_leafTree, value.tree_relabel r .other]
  | .name pos id usage => by
    simp only [Expr.relabel, Expr.tree, map_tree, Node.relabel, mapForest, map_leafTree]
  | .list pos elts usage => by
    simp only [Expr.relabel, Expr.tree, map_tree, Node.relabel, mapForest, map_leafTree, mapForest_append,
      exprTrees_relabel r elts]
  | .tuple pos elts usage => by
    simp only [Expr.relabel, Expr.tree, map_tree, Node.relabel, mapForest, map_leafTree, mapForest_append,
      exprTrees_relabel r elts]
  | .slice pos lower upper step => by
    simp only [Expr.relabel, Expr.tree, map_tree, Node.relabel, mapForest_append,
      optionTree_relabel r .other lower, optionTree_relabel r .other upper, optionTree_relabel r .other step]

theorem operandTrees_relabel (r : Relabelling) (index : Nat) :
    (es : List Expr) → operandTrees index (relabelAll r es) = mapForest (Occurrence.relabel r) (operandTrees index es)
  | [] => rfl
  | e :: es => by
    simp only [relabelAll, operandTrees, mapForest, e.tree_relabel r (.operand index),
      operandTrees_relabel r (index + 1) es]

theorem exprTrees_relabel (r : Relabelling) :
    (es : List Expr) → exprTrees (relabelAll r es) = mapForest (Occurrence.relabel r) (exprTrees es)
  | [] => rfl
  | e :: es => by
    simp only [relabelAll, exprTrees, mapForest, e.tree_relabel r .other, exprTrees_relabel r es]

theorem optionTree_relabel (r : Relabelling) (role : Role) :
    (e : Option Expr) → optionTree role (relabelOption r e) = mapForest (Occurrence.relabel r) (optionTree role e)
  | none => rfl
  | some e => by
    simp only [relabelOption, optionTree, mapForest, e.tree_relabel r role]

theorem optionTrees_relabel (r : Relabelling) :
    (es : List (Option Expr)) →
      optionTrees (relabelOptions r es) = mapForest (Occurrence.relabel r) (optionTrees es)
  | [] => rfl
  | e :: es => by
    simp only [relabelOptions, optionTrees, mapForest_append, optionTree_relabel r .other e, optionTrees_relabel r es]

theorem Param.tree_relabel (r : Relabelling) (role : Role) :
    (p : Param) → (p.relabel r).tree role = (p.tree role).map (Occurrence.relabel r)
  | ⟨pos, name, typeHint⟩ => by
    simp only [Param.relabel, Param.tree, map_tree, Node.relabel, optionTree_relabel r .typeHint typeHint]

theorem paramTrees_relabel (r : Relabelling) (role : Nat → Role) (index : Nat) :
    (ps : List Param) →
      paramTrees role index (relabelParams r ps) = mapForest (Occurrence.relabel r) (paramTrees role index ps)
  | [] => rfl
  | p :: ps => by
    simp only [relabelParams, paramTrees, mapForest, p.tree_relabel r (role index),
      paramTrees_relabel r role (index + 1) ps]

theorem paramTree?_relabel (r : Relabelling) (role : Role) :
    (p : Option Param) → paramTree? role (relabelParam? r p) = mapForest (Occurrence.relabel r) (paramTree? role p)
  | none => rfl
  | some p => by
    simp only [relabelParam?, paramTree?, mapForest, p.tree_relabel r role]

theorem Params.tree_relabel (r : Relabelling) :
    (ps : Params) → (ps.relabel r).tree = ps.tree.map (Occurrence.relabel r)
  | ⟨posOnly, regular, varArg, kwOnly, kwDefaults, kwArg, defaults⟩ => by
    simp only [Params.relabel, Params.tree, map_tree, Node.relabel, mapForest_append,
      paramTrees_relabel r .posOnly 0 posOnly, paramTrees_relabel r .regular 0 regular,
      paramTree?_relabel r .varArg varArg, paramTrees_relabel r .kwOnly 0 kwOnly, optionTrees_relabel r kwDefaults,
      paramTree?_relabel r .kwArg kwArg, exprTrees_relabel r defaults]

theorem Keyword.tree_relabel (r : Relabelling) :
    (k : Keyword) → (k.relabel r).tree = k.tree.map (Occurrence.relabel r)
  | ⟨pos, name, value⟩ => by
    simp only [Keyword.relabel, Keyword.tree, map_tree, Node.relabel, mapForest, value.tree_relabel r .other]

theorem keywordTrees_relabel (r : Relabelling) :
    (ks : List Keyword) → keywordTrees (relabelKeywords r ks) = mapForest (Occurrence.relabel r) (keywordTrees ks)
  | [] => rfl
  | k :: ks => by
    simp only [relabelKeywords, keywordTrees, mapForest, k.tree_relabel r, keywordTrees_relabel r ks]

theorem Comprehension.tree_relabel (r : Relabelling) :
    (c : Comprehension) → (c.relabel r).tree = c.tree.map (Occurrence.relabel r)
  | ⟨target, iter, ifs, isAsync⟩ => by
    simp only [Comprehension.relabel, Comprehension.tree, map_tree, Node.relabel, mapForest,
      target.tree_relabel r .other, iter.tree_relabel r .other, exprTrees_relabel r ifs]

theorem generatorTrees_relabel (r : Relabelling) :
    (gs : List Comprehension) →
      generatorTrees (relabelGenerators r gs) = mapForest (Occurrence.relabel r) (generatorTrees gs)
  | [] => rfl
  | g :: gs => by
    simp only [relabelGenerators, generatorTrees, mapForest, g.tree_relabel r, generatorTrees_relabel r gs]

end

mutual

theorem Pattern.tree_relabel (r : Relabelling) :
    (p : Pattern) → (p.relabel r).tree = p.tree.map (Occurrence.relabel r)
  | .value pos value => by
    simp only [Pattern.relabel, Pattern.tree, map_tree, Node.relabel, mapForest, value.tree_relabel r .other]
  | .singleton pos value => by
    simp only [Pattern.relabel, Pattern.tree, map_tree, Node.relabel, mapForest]
  | .sequence pos patterns => by
    simp only [Pattern.relabel, Pattern.tree, map_tree, Node.relabel, patternTrees_relabel r patterns]
  | .mapping pos keys patterns rest => by
    simp only [Pattern.relabel, Pattern.tree, map_tree, Node.relabel, mapForest_append, exprTrees_relabel r keys,
      patternTrees_relabel r patterns]
  | .classOf pos cls patterns attrs attrPatterns => by
    simp only [Pattern.relabel, Pattern.tree, map_tree, Node.relabel, mapForest, mapForest_append,
      cls.tree_relabel r .other, patternTrees_relabel r patterns, patternTrees_relabel r attrPatterns]
  | .star pos name => by
    simp only [Pattern.relabel, Pattern.tree, map_tree, Node.relabel, mapForest]
  | .capture pos inner name => by
    simp only [Pattern.relabel, Pattern.tree, map_tree, Node.relabel, patternTree?_relabel r inner]
  | .anyOf pos patterns => by
    simp only [Pattern.relabel, Pattern.tree, map_tree, Node.relabel, patternTrees_relabel r patterns]

theorem patternTrees_relabel (r : Relabelling) :
    (ps : List Pattern) → patternTrees (relabelPatterns r ps) = mapForest (Occurrence.relabel r) (patternTrees ps)
  | [] => rfl
  | p :: ps => by
    simp only [relabelPatterns, patternTrees, mapForest, p.tree_relabel r, patternTrees_relabel r ps]

theorem patternTree?_relabel (r : Relabelling) :
    (p : Option Pattern) → patternTree? (relabelPattern? r p) = mapForest (Occurrence.relabel r) (patternTree? p)
  | none => rfl
  | some p => by
    simp only [relabelPattern?, patternTree?, mapForest, p.tree_relabel r]

end

theorem aliasTrees_relabel (r : Relabelling) (names : List Alias) :
    (names.map (Alias.relabel r)).map Alias.tree = mapForest (Occurrence.relabel r) (names.map Alias.tree) := by
  rw [mapForest_map, List.map_map]
  rfl

theorem WithItem.tree_relabel (r : Relabelling) (item : WithItem) :
    (item.relabel r).tree = item.tree.map (Occurrence.relabel r) := by
  simp only [WithItem.relabel, WithItem.tree, map_tree, Node.relabel, mapForest, item.context.tree_relabel r .other,
    optionTree_relabel r .other item.target]

theorem itemTrees_relabel (r : Relabelling) (items : List WithItem) :
    (items.map (WithItem.relabel r)).map WithItem.tree =
      mapForest (Occurrence.relabel r) (items.map WithItem.tree) := by
  rw [mapForest_map, List.map_map]
  exact List.map_congr_left fun item _ => item.tree_relabel r

mutual

theorem Stmt.tree_relabel (r : Relabelling) :
    (s : Stmt) → (s.relabel r).tree = s.tree.map (Occurrence.relabel r)
  | .functionDef f => by
    simp only [Stmt.relabel, Stmt.tree, map_tree, Node.relabel, f.trees_relabel r]
  | .classDef pos name bases keywords body decorators => by
    simp only [Stmt.relabel, Stmt.tree, map_tree, Node.relabel, mapForest_append, exprTrees_relabel r bases,
      keywordTrees_relabel r keywords, stmtTrees_relabel r body, exprTrees_relabel r decorators]
  | .ret pos value => by
    simp only [Stmt.relabel, Stmt.tree, map_tree, Node.relabel, optionTree_relabel r .other value]
  | .delete pos targets => by
    simp only [Stmt.relabel, Stmt.tree, map_tree, Node.relabel, exprTrees_relabel r targets]
  | .assign pos targets value => by
    simp only [Stmt.relabel, Stmt.tree, map_tree, Node.relabel, mapForest, mapForest_append,
      exprTrees_relabel r targets, value.tree_relabel r .other]
  | .augAssign pos target op value => by
    simp only [Stmt.relabel, Stmt.tree, map_tree, Node.relabel, mapForest, map_leafTree,
      target.tree_relabel r .other, value.tree_relabel r .other]
  | .annAssign pos target typeHint value => by
    simp only [Stmt.relabel, Stmt.tree, map_tree, Node.relabel, mapForest, target.tree_relabel r .other,
      typeHint.tree_relabel r .typeHint, optionTree_relabel r .other value]
  | .forLoop pos isAsync target iter body orelse => by
    simp only [Stmt.relabel, Stmt.tree, map_tree, Node.relabel, mapForest, mapForest_append,
      target.tree_relabel r .other, iter.tree_relabel r .other, stmtTrees_relabel r body, stmtTrees_relabel r orelse]
  | .whileLoop pos test body orelse => by
    simp only [Stmt.relabel, Stmt.tree, map_tree, Node.relabel, mapForest, mapForest_append,
      test.tree_relabel r .other, stmtTrees_relabel r body, stmtTrees_relabel r orelse]
  | .branch pos test body orelse => by
    simp only [Stmt.relabel, Stmt.tree, map_tree, Node.relabel, mapForest, mapForest_append,
      test.tree_relabel r .other, stmtTrees_relabel r body, stmtTrees_relabel r orelse]
  | .withBlock pos isAsync items body => by
    simp only [Stmt.relabel, Stmt.tree, map_tree, Node.relabel, mapForest_append, itemTrees_relabel,
      stmtTrees_relabel r body]
  | .choice pos subject cases => by
    simp only [Stmt.relabel, Stmt.tree, map_tree, Node.relabel, mapForest, subject.tree_relabel r .other,
      caseTrees_relabel r cases]
  | .raise pos exc cause => by
    simp only [Stmt.relabel, Stmt.tree, map_tree, Node.relabel, mapForest_append, optionTree_relabel r .other exc,
      optionTree_relabel r .other cause]
  | .tryBlock pos isStar body handlers orelse finalBody => by
    simp only [Stmt.relabel, Stmt.tree, map_tree, Node.relabel, mapForest_append, stmtTrees_relabel r body,
      handlerTrees_relabel r handlers, stmtTrees_relabel r orelse, stmtTrees_relabel r finalBody]
  | .assert pos test msg => by
    simp only [Stmt.relabel, Stmt.tree, map_tree, Node.relabel, mapForest, test.tree_relabel r .other,
      optionTree_relabel r .other msg]
  | .importNames pos names => by
    simp only [Stmt.relabel, Stmt.tree, map_tree, Node.relabel, aliasTrees_relabel]
  | .importFrom pos module names level => by
    simp only [Stmt.relabel, Stmt.tree, map_tree, Node.relabel, aliasTrees_relabel]
  | .globalNames pos names => by
    simp only [Stmt.relabel, Stmt.tree, map_tree, Node.relabel, mapForest]
  | .nonlocalNames pos names => by
    simp only [Stmt.relabel, Stmt.tree, map_tree, Node.relabel, mapForest]
  | .expr pos value => by
    simp only [Stmt.relabel, Stmt.tree, map_tree, Node.relabel, mapForest, value.tree_relabel r .other]
  | .pass pos => by
    simp only [Stmt.relabel, Stmt.tree, map_tree, Node.relabel, mapForest]
  | .breakLoop pos => by
    simp only [Stmt.relabel, Stmt.tree, map_tree, Node.relabel, mapForest]
  | .continueLoop pos => by
    simp only [Stmt.relabel, Stmt.tree, map_tree, Node.relabel, mapForest]

theorem FunctionDef.trees_relabel (r : Relabelling) :
    (f : FunctionDef) → (f.relabel r).trees = mapForest (Occurrence.relabel r) f.trees
  | ⟨pos, isAsync, name, params, body, decorators, returns⟩ => by
    simp only [FunctionDef.relabel, FunctionDef.trees, mapForest, mapForest_append, params.tree_relabel r,
      stmtTrees_relabel r body, exprTrees_relabel r decorators, optionTree_relabel r .returns returns]

theorem stmtTrees_relabel (r : Relabelling) :
    (ss : List Stmt) → stmtTrees (relabelStmts r ss) = mapForest (Occurrence.relabel r) (stmtTrees ss)
  | [] => rfl
  | s :: ss => by
    simp only [relabelStmts, stmtTrees, mapForest, s.tree_relabel r, stmtTrees_relabel r ss]

theorem Handler.tree_relabel (r : Relabelling) :
    (h : Handler) → (h.relabel r).tree = h.tree.map (Occurrence.relabel r)
  | ⟨pos, type, name, body⟩ => by
    simp only [Handler.relabel, Handler.tree, map_tree, Node.relabel, mapForest_append,
      optionTree_relabel r .other type, stmtTrees_relabel r body]

theorem handlerTrees_relabel (r : Relabelling) :
    (hs : List Handler) → handlerTrees (relabelHandlers r hs) = mapForest (Occurrence.relabel r) (handlerTrees hs)
  | [] => rfl
  | h :: hs => by
    simp only [relabelHandlers, handlerTrees, mapForest, h.tree_relabel r, handlerTrees_relabel r hs]

theorem MatchCase.tree_relabel (r : Relabelling) :
    (c : MatchCase) → (c.relabel r).tree = c.tree.map (Occurrence.relabel r)
  | ⟨pattern, guard, body⟩ => by
    simp only [MatchCase.relabel, MatchCase.tree, map_tree, Node.relabel, mapForest, mapForest_append,
      pattern.tree_relabel r, optionTree_relabel r .other guard, stmtTrees_relabel r body]

theorem caseTrees_relabel (r : Relabelling) :
    (cs : List MatchCase) → caseTrees (relabelCases r cs) = mapForest (Occurrence.relabel r) (caseTrees cs)
  | [] => rfl
  | c :: cs => by
    simp only [relabelCases, caseTrees, mapForest, c.tree_relabel r, caseTrees_relabel r cs]

end

theorem Module.tree_relabel (r : Relabelling) (m : Module) :
    (m.relabel r).tree = m.tree.map (Occurrence.relabel r) := by
  simp only [Module.relabel, Module.tree, map_tree, Node.relabel, stmtTrees_relabel r m.body]

/-- Node by node, from the top, the two modules correspond. -/
theorem Module.inOrder_relabel (r : Relabelling) (m : Module) :
    NodeTree.inOrder (m.relabel r).tree = (NodeTree.inOrder m.tree).map (Context.relabel r) := by
  rw [Module.tree_relabel]
  exact Rose.preorder_map (Occurrence.relabel r) [] m.tree

theorem Module.nodesByLevel_relabel (r : Relabelling) (m : Module) :
    NodeTree.nodesByLevel (m.relabel r).tree = (NodeTree.nodesByLevel m.tree).map (Node.relabel r) := by
  rw [Module.tree_relabel]
  have levels : (m.tree.map (Occurrence.relabel r)).levels = m.tree.levels.map (Occurrence.relabel r) :=
    Rose.levelsFrom_map (Occurrence.relabel r) [m.tree]
  rw [NodeTree.nodesByLevel, NodeTree.nodesByLevel, levels, List.map_map, List.map_map]
  rfl

end Trees

end TypingAudit.Ast
