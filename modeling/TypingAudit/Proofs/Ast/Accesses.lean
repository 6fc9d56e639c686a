import TypingAudit.Proofs.Ast.KnownTests
import TypingAudit.Proofs.Ast.Preorder

/-!
The two ways of telling what is known where an element is accessed. Going down a module with the tests that become
known on the way comes to the accesses of its nodes one by one, in the order of the nodes, and knows at each of them
what going up from it gathers.
-/

namespace TypingAudit.Ast

open Source (Position)

def accessesBelow (above : List Occurrence) (t : NodeTree) : List Access := (t.preorder above).filterMap access?

def forestAccesses (above : List Occurrence) (ts : List NodeTree) : List Access :=
  (Rose.forestPreorder above ts).filterMap access?

@[simp] theorem forestAccesses_nil (above : List Occurrence) : forestAccesses above [] = [] := rfl

@[simp] theorem forestAccesses_cons (above : List Occurrence) (t : NodeTree) (ts : List NodeTree) :
    forestAccesses above (t :: ts) = accessesBelow above t ++ forestAccesses above ts :=
  List.filterMap_append

@[simp] theorem forestAccesses_append (above : List Occurrence) (ts us : List NodeTree) :
    forestAccesses above (ts ++ us) = forestAccesses above ts ++ forestAccesses above us := by
  induction ts with
  | nil => rfl
  | cons t ts ih => rw [List.cons_append, forestAccesses_cons, forestAccesses_cons, ih, List.append_assoc]

@[simp] theorem accessesBelow_tree {node : Node}
    (other : ∀ pos value index usage, node ≠ .expr (.subscript pos value index usage)) (above : List Occurrence)
    (role : Role) (ts : List NodeTree) :
    accessesBelow above (Occurrence.tree role node ts) = forestAccesses (⟨role, node⟩ :: above) ts := by
  have none : access? ⟨⟨role, node⟩, above⟩ = none := by
    unfold access?
    split
    next pos value index usage same => exact absurd same (other pos value index usage)
    next => rfl
  exact List.filterMap_cons_none none

@[simp] theorem accessesBelow_subscript (above : List Occurrence) (role : Role) (pos : Position) (value index : Expr)
    (usage : Usage) (ts : List NodeTree) :
    accessesBelow above (Occurrence.tree role (.expr (.subscript pos value index usage)) ts) =
      ⟨pos, value, index, usage, knownAt role above⟩ ::
        forestAccesses (⟨role, .expr (.subscript pos value index usage)⟩ :: above) ts :=
  rfl

@[simp] theorem accessesBelow_leafTree {node : Node} (other : ∀ e, node ≠ .expr e) (above : List Occurrence) :
    accessesBelow above node.leafTree = [] :=
  accessesBelow_tree (fun _ _ _ _ => other _) above .other []

@[simp] theorem forestAccesses_leafTrees {α : Type} {node : α → Node} (other : ∀ a e, node a ≠ .expr e)
    (above : List Occurrence) (items : List α) :
    forestAccesses above (items.map fun a => (node a).leafTree) = [] := by
  induction items with
  | nil => rfl
  | cons a items ih => rw [List.map_cons, forestAccesses_cons, accessesBelow_leafTree (other a), ih, List.append_nil]

@[simp] theorem knownAt_stmt (role inner : Role) (s : Stmt) (above : List Occurrence) :
    knownAt inner (⟨role, .stmt s⟩ :: above) = [] :=
  rfl

mutual

theorem Expr.accesses_tree : (e : Expr) → (role : Role) → (above : List Occurrence) →
    accessesBelow above (e.tree role) = e.accesses (knownAt role above)
  | .boolOp pos op values, role, above => by
    have operands := operandAccesses_trees values role pos op [] above
    simp only [List.nil_append, List.length_nil, List.map_nil] at operands
    simp [Expr.tree, Expr.accesses, operands]
  | .named pos target value, role, above => by
    simp [Expr.tree, Expr.accesses, knownAt, madeKnown, target.accesses_tree, value.accesses_tree]
  | .binOp pos left op right, role, above => by
    simp [Expr.tree, Expr.accesses, knownAt, madeKnown, left.accesses_tree, right.accesses_tree]
  | .unaryOp pos op operand, role, above => by
    simp [Expr.tree, Expr.accesses, knownAt, madeKnown, operand.accesses_tree]
  | .lambda pos params body, role, above => by
    simp [Expr.tree, Expr.accesses, knownAt, madeKnown, params.accesses_tree, body.accesses_tree]
  | .ifExp pos test body orelse, role, above => by
    simp [Expr.tree, Expr.accesses, knownAt, madeKnown, test.accesses_tree, body.accesses_tree, orelse.accesses_tree]
  | .dict pos keys values, role, above => by
    simp [Expr.tree, Expr.accesses, knownAt, madeKnown, optionsAccesses_trees keys, exprsAccesses_trees values]
  | .set pos elts, role, above => by
    simp [Expr.tree, Expr.accesses, knownAt, madeKnown, exprsAccesses_trees elts]
  | .listComp pos elt generators, role, above => by
    simp [Expr.tree, Expr.accesses, knownAt, madeKnown, elt.accesses_tree, generatorAccesses_trees generators]
  | .setComp pos elt generators, role, above => by
    simp [Expr.tree, Expr.accesses, knownAt, madeKnown, elt.accesses_tree, generatorAccesses_trees generators]
  | .dictComp pos key value generators, role, above => by
    simp [Expr.tree, Expr.accesses, knownAt, madeKnown, key.accesses_tree, value.accesses_tree,
      generatorAccesses_trees generators]
  | .generator pos elt generators, role, above => by
    simp [Expr.tree, Expr.accesses, knownAt, madeKnown, elt.accesses_tree, generatorAccesses_trees generators]
  | .await pos value, role, above => by
    simp [Expr.tree, Expr.accesses, knownAt, madeKnown, value.accesses_tree]
  | .yield pos value, role, above => by
    simp [Expr.tree, Expr.accesses, knownAt, madeKnown, optionAccesses_tree value]
  | .yieldFrom pos value, role, above => by
    simp [Expr.tree, Expr.accesses, knownAt, madeKnown, value.accesses_tree]
  | .compare pos left ops comparators, role, above => by
    simp [Expr.tree, Expr.accesses, knownAt, madeKnown, left.accesses_tree, exprsAccesses_trees comparators]
  | .call pos func args keywords, role, above => by
    simp [Expr.tree, Expr.accesses, knownAt, madeKnown, func.accesses_tree, exprsAccesses_trees args,
      keywordAccesses_trees keywords]
  | .formatted pos value conversion spec, role, above => by
    simp [Expr.tree, Expr.accesses, knownAt, madeKnown, value.accesses_tree, optionAccesses_tree spec]
  | .joined pos values, role, above => by
    simp [Expr.tree, Expr.accesses, knownAt, madeKnown, exprsAccesses_trees values]
  | .constant pos value, role, above => by
    simp [Expr.tree, Expr.accesses]
  | .attribute pos value attr usage, role, above => by
    simp [Expr.tree, Expr.accesses, knownAt, madeKnown, value.accesses_tree]
  | .subscript pos value index usage, role, above => by
    simp [Expr.tree, Expr.accesses, knownAt, madeKnown, value.accesses_tree, index.accesses_tree]
  | .starred pos value usage, role, above => by
    simp [Expr.tree, Expr.accesses, knownAt, madeKnown, value.accesses_tree]
  | .name pos id usage, role, above => by
    simp [Expr.tree, Expr.accesses]
  | .list pos elts usage, role, above => by
    simp [Expr.tree, Expr.accesses, knownAt, madeKnown, exprsAccesses_trees elts]
  | .tuple pos elts usage, role, above => by
    simp [Expr.tree, Expr.accesses, knownAt, madeKnown, exprsAccesses_trees elts]
  | .slice pos lower upper step, role, above => by
    simp [Expr.tree, Expr.accesses, knownAt, madeKnown, optionAccesses_tree lower, optionAccesses_tree upper,
      optionAccesses_tree step]

/-- Under `and` and `or`, the operands gone through so far have become known. -/
theorem operandAccesses_trees : (es : List Expr) → (role : Role) → (pos : Position) → (op : BoolOp) →
    (before : List Expr) → (above : List Occurrence) →
    forestAccesses (⟨role, .expr (.boolOp pos op (before ++ es))⟩ :: above) (operandTrees before.length es) =
      operandAccesses op (before.map fun e => ⟨e, op == .and⟩) (knownAt role above) es
  | [], _, _, _, _, _ => rfl
  | e :: es, role, pos, op, before, above => by
    have later := operandAccesses_trees es role pos op (before ++ [e]) above
    simp only [List.append_assoc, List.singleton_append, List.length_append, List.length_singleton, List.map_append,
      List.map_singleton] at later
    have first : (before ++ e :: es).take before.length = before := List.take_left
    simp [operandTrees, operandAccesses, later, e.accesses_tree, knownAt, madeKnown, first]

theorem exprsAccesses_trees : (es : List Expr) → (above : List Occurrence) →
    forestAccesses above (exprTrees es) = exprsAccesses (knownAt .other above) es
  | [], _ => rfl
  | e :: es, above => by simp [exprTrees, exprsAccesses, e.accesses_tree, exprsAccesses_trees es]

theorem optionAccesses_tree : (e : Option Expr) → (role : Role) → (above : List Occurrence) →
    forestAccesses above (optionTree role e) = optionAccesses (knownAt role above) e
  | none, _, _ => rfl
  | some e, role, above => by simp [optionTree, optionAccesses, e.accesses_tree]

theorem optionsAccesses_trees : (es : List (Option Expr)) → (above : List Occurrence) →
    forestAccesses above (optionTrees es) = optionsAccesses (knownAt .other above) es
  | [], _ => rfl
  | e :: es, above => by simp [optionTrees, optionsAccesses, optionAccesses_tree e, optionsAccesses_trees es]

theorem Param.accesses_tree : (p : Param) → (role : Role) → (above : List Occurrence) →
    accessesBelow above (p.tree role) = p.accesses (knownAt role above)
  | ⟨pos, name, typeHint⟩, role, above => by
    simp [Param.tree, Param.accesses, knownAt, madeKnown, optionAccesses_tree typeHint]

theorem paramAccesses_trees : (ps : List Param) → (role : Nat → Role) → (index : Nat) → (owner : Params) →
    (above : List Occurrence) →
    forestAccesses (⟨.other, .params owner⟩ :: above) (paramTrees role index ps) =
      paramAccesses (knownAt .other above) ps
  | [], _, _, _, _ => rfl
  | p :: ps, role, index, owner, above => by
    simp [paramTrees, paramAccesses, knownAt, madeKnown, p.accesses_tree, paramAccesses_trees ps]

theorem paramAccesses?_tree : (p : Option Param) → (role : Role) → (owner : Params) → (above : List Occurrence) →
    forestAccesses (⟨.other, .params owner⟩ :: above) (paramTree? role p) =
      paramAccesses? (knownAt .other above) p
  | none, _, _, _ => rfl
  | some p, role, owner, above => by simp [paramTree?, paramAccesses?, knownAt, madeKnown, p.accesses_tree]

theorem Params.accesses_tree : (ps : Params) → (above : List Occurrence) →
    accessesBelow above ps.tree = ps.accesses (knownAt .other above)
  | ⟨posOnly, regular, varArg, kwOnly, kwDefaults, kwArg, defaults⟩, above => by
    simp [Params.tree, Params.accesses, knownAt, madeKnown, paramAccesses_trees posOnly, paramAccesses_trees regular,
      paramAccesses?_tree varArg, paramAccesses_trees kwOnly, optionsAccesses_trees kwDefaults,
      paramAccesses?_tree kwArg, exprsAccesses_trees defaults]

theorem Keyword.accesses_tree : (k : Keyword) → (above : List Occurrence) →
    accessesBelow above k.tree = k.accesses (knownAt .other above)
  | ⟨pos, name, value⟩, above => by
    simp [Keyword.tree, Keyword.accesses, knownAt, madeKnown, value.accesses_tree]

theorem keywordAccesses_trees : (ks : List Keyword) → (above : List Occurrence) →
    forestAccesses above (keywordTrees ks) = keywordAccesses (knownAt .other above) ks
  | [], _ => rfl
  | k :: ks, above => by simp [keywordTrees, keywordAccesses, k.accesses_tree, keywordAccesses_trees ks]

theorem Comprehension.accesses_tree : (c : Comprehension) → (above : List Occurrence) →
    accessesBelow above c.tree = c.accesses (knownAt .other above)
  | ⟨target, iter, ifs, isAsync⟩, above => by
    simp [Comprehension.tree, Comprehension.accesses, knownAt, madeKnown, target.accesses_tree, iter.accesses_tree,
      exprsAccesses_trees ifs]

theorem generatorAccesses_trees : (gs : List Comprehension) → (above : List Occurrence) →
    forestAccesses above (generatorTrees gs) = generatorAccesses (knownAt .other above) gs
  | [], _ => rfl
  | g :: gs, above => by simp [generatorTrees, generatorAccesses, g.accesses_tree, generatorAccesses_trees gs]

end

mutual

theorem Pattern.accesses_tree : (p : Pattern) → (above : List Occurrence) →
    accessesBelow above p.tree = p.accesses (knownAt .other above)
  | .value pos value, above => by simp [Pattern.tree, Pattern.accesses, knownAt, madeKnown, value.accesses_tree]
  | .singleton pos value, above => by simp [Pattern.tree, Pattern.accesses]
  | .sequence pos patterns, above => by
    simp [Pattern.tree, Pattern.accesses, knownAt, madeKnown, patternAccesses_trees patterns]
  | .mapping pos keys patterns rest, above => by
    simp [Pattern.tree, Pattern.accesses, knownAt, madeKnown, exprsAccesses_trees keys,
      patternAccesses_trees patterns]
  | .classOf pos cls patterns attrs attrPatterns, above => by
    simp [Pattern.tree, Pattern.accesses, knownAt, madeKnown, cls.accesses_tree, patternAccesses_trees patterns,
      patternAccesses_trees attrPatterns]
  | .star pos name, above => by simp [Pattern.tree, Pattern.accesses]
  | .capture pos inner name, above => by
    simp [Pattern.tree, Pattern.accesses, knownAt, madeKnown, patternAccesses?_tree inner]
  | .anyOf pos patterns, above => by
    simp [Pattern.tree, Pattern.accesses, knownAt, madeKnown, patternAccesses_trees patterns]

theorem patternAccesses_trees : (ps : List Pattern) → (above : List Occurrence) →
    forestAccesses above (patternTrees ps) = patternAccesses (knownAt .other above) ps
  | [], _ => rfl
  | p :: ps, above => by simp [patternTrees, patternAccesses, p.accesses_tree, patternAccesses_trees ps]

theorem patternAccesses?_tree : (p : Option Pattern) → (above : List Occurrence) →
    forestAccesses above (patternTree? p) = patternAccesses? (knownAt .other above) p
  | none, _ => rfl
  | some p, above => by simp [patternTree?, patternAccesses?, p.accesses_tree]

end

theorem WithItem.accesses_tree (item : WithItem) (above : List Occurrence) :
    accessesBelow above item.tree = item.accesses (knownAt .other above) := by
  simp [WithItem.tree, WithItem.accesses, knownAt, madeKnown, item.context.accesses_tree,
    optionAccesses_tree item.target]

theorem itemAccesses_trees (items : List WithItem) (above : List Occurrence) :
    forestAccesses above (items.map WithItem.tree) = items.flatMap (WithItem.accesses (knownAt .other above)) := by
  induction items with
  | nil => rfl
  | cons item items ih => rw [List.map_cons, forestAccesses_cons, item.accesses_tree, ih, List.flatMap_cons]

theorem forestAccesses_aliases (names : List Alias) (above : List Occurrence) :
    forestAccesses above (names.map Alias.tree) = [] :=
  forestAccesses_leafTrees (fun _ _ => Node.noConfusion) above names

mutual

theorem Stmt.accesses_tree : (s : Stmt) → (above : List Occurrence) → accessesBelow above s.tree = s.accesses
  | .functionDef f, above => by simp [Stmt.tree, Stmt.accesses, f.accesses_trees]
  | .classDef pos name bases keywords body decorators, above => by
    simp [Stmt.tree, Stmt.accesses, exprsAccesses_trees bases, keywordAccesses_trees keywords,
      stmtAccesses_trees body, exprsAccesses_trees decorators]
  | .ret pos value, above => by simp [Stmt.tree, Stmt.accesses, optionAccesses_tree value]
  | .delete pos targets, above => by simp [Stmt.tree, Stmt.accesses, exprsAccesses_trees targets]
  | .assign pos targets value, above => by
    simp [Stmt.tree, Stmt.accesses, exprsAccesses_trees targets, value.accesses_tree]
  | .augAssign pos target op value, above => by
    simp [Stmt.tree, Stmt.accesses, target.accesses_tree, value.accesses_tree]
  | .annAssign pos target typeHint value, above => by
    simp [Stmt.tree, Stmt.accesses, target.accesses_tree, typeHint.accesses_tree, optionAccesses_tree value]
  | .forLoop pos isAsync target iter body orelse, above => by
    simp [Stmt.tree, Stmt.accesses, target.accesses_tree, iter.accesses_tree, stmtAccesses_trees body,
      stmtAccesses_trees orelse]
  | .whileLoop pos test body orelse, above => by
    simp [Stmt.tree, Stmt.accesses, test.accesses_tree, stmtAccesses_trees body, stmtAccesses_trees orelse]
  | .branch pos test body orelse, above => by
    simp [Stmt.tree, Stmt.accesses, test.accesses_tree, stmtAccesses_trees body, stmtAccesses_trees orelse]
  | .withBlock pos isAsync items body, above => by
    simp [Stmt.tree, Stmt.accesses, itemAccesses_trees, stmtAccesses_trees body]
  | .choice pos subject cases, above => by
    simp [Stmt.tree, Stmt.accesses, subject.accesses_tree, caseAccesses_trees cases]
  | .raise pos exc cause, above => by
    simp [Stmt.tree, Stmt.accesses, optionAccesses_tree exc, optionAccesses_tree cause]
  | .tryBlock pos isStar body handlers orelse finalBody, above => by
    simp [Stmt.tree, Stmt.accesses, stmtAccesses_trees body, handlerAccesses_trees handlers,
      stmtAccesses_trees orelse, stmtAccesses_trees finalBody]
  | .assert pos test msg, above => by simp [Stmt.tree, Stmt.accesses, test.accesses_tree, optionAccesses_tree msg]
  | .importNames pos names, above => by simp [Stmt.tree, Stmt.accesses, forestAccesses_aliases]
  | .importFrom pos module names level, above => by simp [Stmt.tree, Stmt.accesses, forestAccesses_aliases]
  | .globalNames pos names, above => by simp [Stmt.tree, Stmt.accesses]
  | .nonlocalNames pos names, above => by simp [Stmt.tree, Stmt.accesses]
  | .expr pos value, above => by simp [Stmt.tree, Stmt.accesses, value.accesses_tree]
  | .pass pos, above => by simp [Stmt.tree, Stmt.accesses]
  | .breakLoop pos, above => by simp [Stmt.tree, Stmt.accesses]
  | .continueLoop pos, above => by simp [Stmt.tree, Stmt.accesses]

theorem FunctionDef.accesses_trees : (f : FunctionDef) → (role : Role) → (owner : Stmt) → (above : List Occurrence) →
    forestAccesses (⟨role, .stmt owner⟩ :: above) f.trees = f.accesses
  | ⟨pos, isAsync, name, params, body, decorators, returns⟩, role, owner, above => by
    simp [FunctionDef.trees, FunctionDef.accesses, params.accesses_tree, stmtAccesses_trees body,
      exprsAccesses_trees decorators, optionAccesses_tree returns]

theorem stmtAccesses_trees : (ss : List Stmt) → (above : List Occurrence) →
    forestAccesses above (stmtTrees ss) = stmtAccesses ss
  | [], _ => rfl
  | s :: ss, above => by simp [stmtTrees, stmtAccesses, s.accesses_tree, stmtAccesses_trees ss]

theorem Handler.accesses_tree : (h : Handler) → (above : List Occurrence) →
    accessesBelow above h.tree = h.accesses (knownAt .other above)
  | ⟨pos, type, name, body⟩, above => by
    simp [Handler.tree, Handler.accesses, knownAt, madeKnown, optionAccesses_tree type, stmtAccesses_trees body]

theorem handlerAccesses_trees : (hs : List Handler) → (above : List Occurrence) →
    forestAccesses above (handlerTrees hs) = handlerAccesses (knownAt .other above) hs
  | [], _ => rfl
  | h :: hs, above => by simp [handlerTrees, handlerAccesses, h.accesses_tree, handlerAccesses_trees hs]

theorem MatchCase.accesses_tree : (c : MatchCase) → (above : List Occurrence) →
    accessesBelow above c.tree = c.accesses (knownAt .other above)
  | ⟨pattern, guard, body⟩, above => by
    simp [MatchCase.tree, MatchCase.accesses, knownAt, madeKnown, pattern.accesses_tree, optionAccesses_tree guard,
      stmtAccesses_trees body]

theorem caseAccesses_trees : (cs : List MatchCase) → (above : List Occurrence) →
    forestAccesses above (caseTrees cs) = caseAccesses (knownAt .other above) cs
  | [], _ => rfl
  | c :: cs, above => by simp [caseTrees, caseAccesses, c.accesses_tree, caseAccesses_trees cs]

end

end TypingAudit.Ast
