import TypingAudit.Proofs.Ast.Lineages
import TypingAudit.Proofs.Rule.GuardSearch

/-!
What a verdict on an element read depends on. A read inside an annotation, at any depth, is no element read; whether a
read is inside one, and whether it is guarded, is settled between the read and the nearest statement around it. So the
verdicts on a statement are the same wherever the statement stands.
-/

namespace TypingAudit.Rule

open Ast Typing

section Annotations

/-- The annotation of a node, if it has one, hangs between other children, and its part tells it from them. -/
structure AnnotatedBetween (node : Node) (front back : List NodeTree) (hint : Role) (type : Option Expr) :
    Prop where
  below : node.below = front ++ optionTree hint type ++ back
  others : ∀ t ∈ front ++ back, t.value.role ≠ hint
  hints : ∀ role, isTypeHintOf node role = (role == hint)
  annotated : node.typeHint? = type.map (front.length, ·)

variable {node : Node} {front back : List NodeTree} {hint : Role} {type : Option Expr} {i : Nat}

theorem AnnotatedBetween.getElem?_below (between : AnnotatedBetween node front back hint type) {e : Expr}
    (found : node.typeHint? = some (i, e)) : node.below[i]? = some (e.tree hint) := by
  rw [between.annotated, Option.map_eq_some_iff] at found
  obtain ⟨own, rfl, same⟩ := found
  cases same
  rw [between.below, List.append_assoc, List.getElem?_append_right (Nat.le_refl _), Nat.sub_self]
  rfl

theorem AnnotatedBetween.isTypeHintOf_iff (between : AnnotatedBetween node front back hint type) {t : NodeTree}
    (child : node.below[i]? = some t) :
    isTypeHintOf node t.value.role = true ↔ ∃ e, node.typeHint? = some (i, e) := by
  rw [between.hints, beq_iff_eq]
  constructor
  · intro isHint
    rw [between.below, List.append_assoc] at child
    by_cases early : i < front.length
    · rw [List.getElem?_append_left early] at child
      exact absurd isHint (between.others t (List.mem_append_left _ (List.mem_of_getElem? child)))
    · rw [List.getElem?_append_right (by omega)] at child
      have notBehind : t ∉ back := fun behind => between.others t (List.mem_append_right _ behind) isHint
      cases type with
      | none => exact absurd (List.mem_of_getElem? child) notBehind
      | some e =>
        -- the annotation is the first of what is left, and no child after it has its part
        cases place : i - front.length with
        | zero =>
          have here : front.length = i := by omega
          exact ⟨e, by rw [between.annotated, Option.map_some, here]⟩
        | succ j =>
          rw [place] at child
          have behind : back[j]? = some t := child
          exact absurd (List.mem_of_getElem? behind) notBehind
  · intro annotated
    obtain ⟨e, found⟩ := annotated
    rw [between.getElem?_below found, Option.some.injEq] at child
    rw [← child, e.value_tree]

theorem annotatedBetween_param (p : Param) : AnnotatedBetween (.param p) [] [] .typeHint p.typeHint where
  below := by
    obtain ⟨pos, name, typeHint⟩ := p
    exact (List.append_nil _).symm
  others := List.forall_mem_nil _
  hints _ := rfl
  annotated := rfl

theorem annotatedBetween_variable (pos : Source.Position) (target typeHint : Expr) (value : Option Expr) :
    AnnotatedBetween (.stmt (.annAssign pos target typeHint value)) [target.tree .other] (optionTree .other value)
      .typeHint (some typeHint) where
  below := rfl
  others := by
    intro t member
    have other : t.value.role = .other := by
      rcases List.mem_append.1 member with first | last
      · rw [List.mem_singleton.1 first, target.value_tree]
      · exact role_of_mem_optionTree last
    rw [other]
    exact nofun
  hints _ := rfl
  annotated := rfl

theorem annotatedBetween_function (f : FunctionDef) :
    AnnotatedBetween (.stmt (.functionDef f))
      (f.params.tree :: (f.body.map Stmt.tree ++ f.decorators.map (Expr.tree .other))) [] .returns f.returns where
  below := by
    obtain ⟨pos, isAsync, name, params, body, decorators, returns⟩ := f
    change params.tree :: (stmtTrees body ++ exprTrees decorators ++ optionTree .returns returns) = _
    rw [stmtTrees_eq_map, exprTrees_eq_map, List.append_nil, List.cons_append]
  others := by
    intro t member
    have other : t.value.role = .other := by
      rw [List.append_nil, List.mem_cons, List.mem_append, List.mem_map, List.mem_map] at member
      rcases member with rfl | ⟨s, -, rfl⟩ | ⟨e, -, rfl⟩
      · rw [f.params.value_tree]
      · rw [s.value_tree]
      · rw [e.value_tree]
    rw [other]
    exact nofun
  hints _ := rfl
  annotated := by
    have place : (f.params.tree :: (f.body.map Stmt.tree ++ f.decorators.map (Expr.tree .other))).length =
        1 + f.body.length + f.decorators.length := by
      rw [List.length_cons, List.length_append, List.length_map, List.length_map]
      omega
    rw [place]
    rfl

theorem annotation_cases (node : Node) :
    (∃ front back hint type, AnnotatedBetween node front back hint type) ∨
      node.typeHint? = none ∧ ∀ role, isTypeHintOf node role = false := by
  cases node with
  | param p => exact .inl ⟨_, _, _, _, annotatedBetween_param p⟩
  | stmt s =>
    cases s with
    | annAssign pos target typeHint value =>
      exact .inl ⟨_, _, _, _, annotatedBetween_variable pos target typeHint value⟩
    | functionDef f => exact .inl ⟨_, _, _, _, annotatedBetween_function f⟩
    | _ => exact .inr ⟨rfl, fun _ => rfl⟩
  | _ => exact .inr ⟨rfl, fun _ => rfl⟩

theorem getElem?_below_typeHint {e : Expr} (found : node.typeHint? = some (i, e)) :
    ∃ role, node.below[i]? = some (e.tree role) := by
  rcases annotation_cases node with ⟨front, back, hint, type, between⟩ | ⟨none, -⟩
  · exact ⟨hint, between.getElem?_below found⟩
  · rw [none] at found
    cases found

theorem isTypeHintOf_iff {t : NodeTree} (child : node.below[i]? = some t) :
    isTypeHintOf node t.value.role = true ↔ ∃ e, node.typeHint? = some (i, e) := by
  rcases annotation_cases node with ⟨front, back, hint, type, between⟩ | ⟨none, never⟩
  · exact between.isTypeHintOf_iff child
  · rw [never, none]
    simp

theorem isPlain_of_isTypeHintOf {child parent : Occurrence} (hangs : HangsUnder child parent)
    (hint : isTypeHintOf parent.node child.role = true) : child.node.isPlain = true := by
  obtain ⟨t, below, rfl⟩ := hangs
  obtain ⟨i, found⟩ := List.mem_iff_getElem?.1 below
  obtain ⟨type, annotated⟩ := (isTypeHintOf_iff found).1 hint
  obtain ⟨role, same⟩ := getElem?_below_typeHint annotated
  rw [found, Option.some.injEq] at same
  rw [same, type.value_tree]
  rfl

/-- Going up from a node, an annotation is entered exactly when the address of the node leads into one. -/
theorem insideTypeHint_iff {m : Module} {address : List Nat} {c : Context} (stands : m.tree.StandsAt address c) :
    insideTypeHint c = true ↔ m.tree.LeadsIntoAnnotation address := by
  have steps : insideTypeHint c =
      (m.tree.steps address).any fun step => isTypeHintOf step.1.value.node step.2.value.role := by
    rw [insideTypeHint, ← List.any_reverse, stands.chain_eq, List.any_map]
    rfl
  rw [steps, List.any_eq_true]
  constructor
  · intro entered
    obtain ⟨⟨parent, child⟩, member, hint⟩ := entered
    obtain ⟨front, i, rest, split, leads, taken⟩ := Rose.mem_steps_iff.1 member
    rw [m.isGrown_tree.of_subtreeAt leads] at taken
    obtain ⟨type, annotated⟩ := (isTypeHintOf_iff taken).1 hint
    exact ⟨front, i, rest, parent, type, split, leads, annotated⟩
  · intro leadsInto
    obtain ⟨front, i, rest, parent, type, split, leads, annotated⟩ := leadsInto
    obtain ⟨role, taken⟩ := getElem?_below_typeHint annotated
    refine ⟨(parent, type.tree role), Rose.mem_steps_iff.2 ⟨front, i, rest, split, leads, ?_⟩, ?_⟩
    · rw [m.isGrown_tree.of_subtreeAt leads]
      exact taken
    · exact (isTypeHintOf_iff taken).2 ⟨type, annotated⟩

theorem judgeSubscript_of_insideTypeHint {c : Context} (inside : insideTypeHint c = true) (stack : CallStack)
    (facts : TypeFacts) :
    judgeSubscript stack c facts = .silent := by
  unfold judgeSubscript
  split
  · rw [inside, Bool.true_or, if_pos rfl, ite_self]
  · rfl

end Annotations

section Locality

theorem chainTo_append (o s : Occurrence) (near far : List Occurrence) :
    Rose.Place.chainTo o (near ++ s :: far) =
      Rose.Place.chainTo o (near ++ [s]) ++ Rose.Place.chainTo s far := by
  induction near generalizing o with
  | nil => rfl
  | cons p near ih =>
    rw [List.cons_append, Rose.Place.chainTo, ih p, List.cons_append, Rose.Place.chainTo, List.cons_append]

theorem noTypeHint_above {o : Occurrence} {above : List Occurrence} (lineage : IsLineage (o :: above))
    (block : o.node.isPlain = false) :
    (Rose.Place.chainTo o above).any (fun step => isTypeHintOf step.1.node step.2.role) = false := by
  induction above generalizing o with
  | nil => rfl
  | cons parent above ih =>
    obtain ⟨hangs, further⟩ := List.isChain_cons_cons.1 lineage
    have notPlain : ¬o.node.isPlain = true := Bool.eq_false_iff.1 block
    have outside : isTypeHintOf parent.node o.role = false :=
      Bool.eq_false_iff.2 fun hint => notPlain (isPlain_of_isTypeHintOf hangs hint)
    have parentBlock : parent.node.isPlain = false := Bool.eq_false_iff.2 fun plain => notPlain (hangs.isPlain plain)
    rw [Rose.Place.chainTo, List.any_cons, ih further parentBlock, outside, Bool.false_or]

variable {o s : Occurrence} {near far : List Occurrence}

theorem insideTypeHint_upToStmt (isStmt : s.node.isStmt = true) (lineage : IsLineage (s :: far)) :
    insideTypeHint ⟨o, near ++ s :: far⟩ = insideTypeHint ⟨o, near ++ [s]⟩ := by
  have above := noTypeHint_above lineage (Node.isPlain_of_isStmt isStmt)
  unfold insideTypeHint Rose.Place.chain
  rw [chainTo_append, List.any_append]
  exact (congrArg _ above).trans (Bool.or_false _)

/-- The search for a guard ends at a statement. -/
theorem isReachedChecked_upToStmt (container : Expr) (isStmt : s.node.isStmt = true)
    (further : List (Occurrence × Occurrence)) :
    isReachedChecked container (Rose.Place.chainTo o (near ++ [s]) ++ further) =
      isReachedChecked container (Rose.Place.chainTo o (near ++ [s])) := by
  induction near generalizing o with
  | nil =>
    simp only [List.nil_append, Rose.Place.chainTo, List.cons_append, isReachedChecked]
    cases kind : s.node with
    | stmt => rfl
    | _ => rw [kind] at isStmt; cases isStmt
  | cons p near ih =>
    rw [List.cons_append, Rose.Place.chainTo, List.cons_append, isReachedChecked, isReachedChecked]
    cases p.node with
    | stmt => rfl
    | _ => rw [ih]

theorem judgeSubscript_upToStmt (stack : CallStack) (facts : TypeFacts) (isStmt : s.node.isStmt = true)
    (lineage : IsLineage (s :: far)) :
    judgeSubscript stack ⟨o, near ++ s :: far⟩ facts = judgeSubscript stack ⟨o, near ++ [s]⟩ facts := by
  have reached (container : Expr) :
      isReachedChecked container (Rose.Place.chain ⟨o, near ++ s :: far⟩) =
        isReachedChecked container (Rose.Place.chain ⟨o, near ++ [s]⟩) := by
    unfold Rose.Place.chain
    rw [chainTo_append, isReachedChecked_upToStmt container isStmt]
  unfold judgeSubscript
  rw [insideTypeHint_upToStmt isStmt lineage]
  simp only [reached]
  rfl

/-- Wherever a statement stands, the verdicts on what is below it are the same. -/
theorem verdicts_of_moved (stack : CallStack) (facts : TypeFacts) (s : Stmt) {above above' : List Occurrence}
    (lineage : IsLineage (⟨.other, .stmt s⟩ :: above)) (lineage' : IsLineage (⟨.other, .stmt s⟩ :: above')) :
    (s.tree.preorder above').map (judgeSubscript stack · facts) =
      (s.tree.preorder above).map (judgeSubscript stack · facts) := by
  rw [← List.nil_append above, ← List.nil_append above', Rose.preorder_append, Rose.preorder_append, List.map_map,
    List.map_map]
  apply List.map_congr_left
  intro c member
  change judgeSubscript stack ⟨c.value, c.above ++ above'⟩ facts =
    judgeSubscript stack ⟨c.value, c.above ++ above⟩ facts
  rcases Rose.eq_root_or_above member with rfl | ⟨near, path⟩
  · rw [s.value_tree]
    rfl
  · rw [path, s.value_tree, List.append_assoc, List.append_assoc, List.singleton_append, List.singleton_append,
      judgeSubscript_upToStmt stack facts rfl lineage', judgeSubscript_upToStmt stack facts rfl lineage]

end Locality

/-- Whether a read is exempt as part of an annotation is told by its address, at any depth. The verdict on it is the
same above whatever nodes the statement around it stands, so a statement keeps its verdicts wherever it is moved. -/
theorem index_verdicts_local (stack : CallStack) (m : Module) (facts : TypeFacts) :
    (∀ (address : List Nat) (c : Context), m.tree.StandsAt address c →
      (uncheckedIndexAccess stack).applies c.node = true →
      (insideTypeHint c = true ↔ NodeTree.LeadsIntoAnnotation m.tree address) ∧
      (NodeTree.LeadsIntoAnnotation m.tree address → (uncheckedIndexAccess stack).judge c facts = .silent) ∧
      ∃ near s far, c.above = near ++ s :: far ∧ s.node.isStmt = true ∧ (∀ o ∈ near, o.node.isStmt = false) ∧
        ∀ far', IsLineage (c.value :: near ++ s :: far') →
          (uncheckedIndexAccess stack).judge ⟨c.value, near ++ s :: far'⟩ facts =
            (uncheckedIndexAccess stack).judge c facts) ∧
    ∀ (other : Module) (s : Stmt) (address address' : List Nat) (above above' : List Occurrence),
      m.tree.StandsAt address ⟨⟨.other, .stmt s⟩, above⟩ →
      other.tree.StandsAt address' ⟨⟨.other, .stmt s⟩, above'⟩ →
      s.tree.preorder above <:+: NodeTree.contexts m.tree ∧
        s.tree.preorder above' <:+: NodeTree.contexts other.tree ∧
        (s.tree.preorder above').map ((uncheckedIndexAccess stack).judge · facts) =
          (s.tree.preorder above).map ((uncheckedIndexAccess stack).judge · facts) := by
  constructor
  · intro address c stands applies
    obtain ⟨pos, value, index, usage, reads⟩ := subscript_of_applies applies
    have occurs : c ∈ NodeTree.contexts m.tree := stands.mem_walk
    have plain : c.node.isPlain = true := by
      rw [reads]
      rfl
    obtain ⟨near, s, far, path, isStmt, nearest⟩ := exists_nearest_stmt occurs plain
    refine ⟨insideTypeHint_iff stands, ?_, near, s, far, path, isStmt, nearest, ?_⟩
    · intro leadsInto
      exact judgeSubscript_of_insideTypeHint ((insideTypeHint_iff stands).2 leadsInto) stack facts
    · intro far' lineage'
      obtain ⟨o, above⟩ := c
      cases path
      have lineage : IsLineage (o :: near ++ s :: far) := isLineage_of_mem_contexts occurs
      calc judgeSubscript stack ⟨o, near ++ s :: far'⟩ facts
        _ = judgeSubscript stack ⟨o, near ++ [s]⟩ facts :=
          judgeSubscript_upToStmt stack facts isStmt lineage'.right_of_append
        _ = judgeSubscript stack ⟨o, near ++ s :: far⟩ facts :=
          (judgeSubscript_upToStmt stack facts isStmt lineage.right_of_append).symm
  · intro other s address address' above above' stands stands'
    refine ⟨Module.preorder_infix_contexts stands, Module.preorder_infix_contexts stands', ?_⟩
    exact verdicts_of_moved stack facts s (isLineage_of_mem_contexts stands.mem_walk)
      (isLineage_of_mem_contexts stands'.mem_walk)

def Verdict.message? : Verdict → Option String
  | .report found => some found.message
  | _ => none

def plainRead : Stmt :=
  .expr ⟨2, 1⟩ (.subscript ⟨2, 1⟩ (.name ⟨2, 1⟩ "d" .load) (.name ⟨2, 3⟩ "k" .load) .load)

def innerRead : Expr := .subscript ⟨1, 11⟩ (.name ⟨1, 11⟩ "u" .load) (.constant ⟨1, 13⟩ (.int 0)) .load

def annotatedModule : Module :=
  ⟨[.functionDef ⟨⟨1, 0⟩, false, "f",
    ⟨[], [⟨⟨1, 6⟩, "a", some (.subscript ⟨1, 9⟩ (.name ⟨1, 9⟩ "t" .load) innerRead .load)⟩], none, [], [], none, []⟩,
    [plainRead], [], none⟩]⟩

theorem annotatedModule_verdicts :
    let facts := (ModuleTypes.ofImports .empty).facts
    (∃ c : Context, annotatedModule.tree.StandsAt [0, 0, 0, 0, 1] c ∧ c.node = .expr innerRead ∧
      (uncheckedIndexAccess .unbounded).judge c facts = .silent) ∧
    ∃ above, annotatedModule.tree.StandsAt [0, 1] ⟨⟨.other, .stmt plainRead⟩, above⟩ ∧
      (plainRead.tree.preorder above).map (fun c => ((uncheckedIndexAccess .unbounded).judge c facts).message?) =
        [none, some "Unsafe indexing: d[k] has no membership or bounds check", none, none, none, none, none] := by
  intro facts
  obtain ⟨exempt, moved⟩ := index_verdicts_local .unbounded annotatedModule facts
  have inner := Rose.standsAt_of_subtreeAt annotatedModule.tree [0, 0, 0, 0, 1] rfl
  have block := Rose.standsAt_of_subtreeAt annotatedModule.tree [0, 1] rfl
  have top := Rose.standsAt_of_subtreeAt (Module.tree ⟨[plainRead]⟩) [0] rfl
  refine ⟨⟨_, inner, rfl, ?_⟩, _, block, ?_⟩
  · obtain ⟨-, silent, -⟩ := exempt _ _ inner rfl
    exact silent ⟨[0, 0, 0], 0, [1], _, _, rfl, rfl, rfl⟩
  · obtain ⟨-, -, same⟩ := moved _ _ _ _ _ _ block top
    have messages := congrArg (List.map Verdict.message?) same
    rw [List.map_map, List.map_map] at messages
    exact messages.symm.trans (by decide +kernel)

end TypingAudit.Rule
