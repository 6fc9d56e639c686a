import Mathlib.Data.List.Chain
import TypingAudit.Proofs.Ast.Definitions
import TypingAudit.Proofs.Ast.Visits

/-!
Lines of ancestors. Above a node of a module stand its parent, the parent of that one and so on up to the module, and
a statement is among them unless the node is a statement at the top itself. Above a statement stand only statements and
the parts of statements that have blocks. What hangs under a statement is the same wherever the statement stands.
-/

namespace TypingAudit.Ast

namespace Rose

variable {α : Type}

theorem mem_steps_iff {t : Rose α} {address : List Nat} {step : Rose α × Rose α} :
    step ∈ t.steps address ↔
      ∃ front i rest, address = front ++ i :: rest ∧ t.subtreeAt front = some step.1 ∧
        step.1.children[i]? = some step.2 := by
  induction address generalizing t with
  | nil => simp [steps]
  | cons i rest ih =>
    constructor
    · intro member
      cases child : t.children[i]? with
      | none =>
        rw [steps, child] at member
        cases member
      | some c =>
        rw [steps, child] at member
        rcases List.mem_cons.1 member with rfl | later
        · exact ⟨[], i, rest, rfl, rfl, child⟩
        · obtain ⟨front, j, others, rfl, leads, taken⟩ := ih.1 later
          refine ⟨i :: front, j, others, rfl, ?_, taken⟩
          rw [subtreeAt, child]
          exact leads
    · intro onWay
      obtain ⟨front, j, others, split, leads, taken⟩ := onWay
      cases front with
      | nil =>
        cases split
        cases leads
        rw [steps, taken]
        exact List.mem_cons_self
      | cons k front =>
        cases split
        rw [subtreeAt, Option.bind_eq_some_iff] at leads
        obtain ⟨c, child, leads⟩ := leads
        rw [steps, child]
        exact List.mem_cons_of_mem _ (ih.2 ⟨front, j, others, rfl, leads, taken⟩)

theorem preorder_infix_of_mem {t : Rose α} {ts : List (Rose α)} (member : t ∈ ts) (above : List α) :
    t.preorder above <:+: forestPreorder above ts := by
  rw [forestPreorder_eq_flatMap, List.flatMap, underneath, List.map_map]
  exact List.infix_of_mem_flatten (List.mem_map.2 ⟨t, member, rfl⟩)

/-- The walk goes through what is below an address without leaving it in between. -/
theorem preorder_infix_of_subtreeAt {t sub : Rose α} {address : List Nat} (above : List α)
    (leads : t.subtreeAt address = some sub) :
    sub.preorder (((t.steps address).map fun step => step.1.value).reverse ++ above) <:+: t.preorder above := by
  induction address generalizing t above with
  | nil =>
    cases leads
    exact List.infix_rfl
  | cons i rest ih =>
    rw [subtreeAt, Option.bind_eq_some_iff] at leads
    obtain ⟨c, child, leads⟩ := leads
    obtain ⟨v, cs⟩ := t
    have inner := ih (v :: above) leads
    have among : c.preorder (v :: above) <:+: forestPreorder (v :: above) cs :=
      preorder_infix_of_mem (List.mem_of_getElem? child) _
    rw [steps, child, List.map_cons, List.reverse_cons, List.append_assoc, preorder]
    exact List.IsInfix.trans inner (List.IsInfix.trans among (List.suffix_cons _ _).isInfix)

theorem standsAt_of_subtreeAt (t : Rose α) (address : List Nat) {sub : Rose α}
    (leads : t.subtreeAt address = some sub) :
    t.StandsAt address ⟨sub.value, ((t.steps address).map fun step => step.1.value).reverse⟩ := by
  apply StandsBelow.standsAt
  constructor
  · rw [leads, Option.map_some]
  · rw [List.append_nil]

theorem StandsAt.exists_subtree {t : Rose α} {address : List Nat} {place : Place α}
    (stands : t.StandsAt address place) :
    ∃ sub, t.subtreeAt address = some sub ∧ sub.value = place.value ∧ sub.preorder place.above <:+: t.walk := by
  obtain ⟨sub, leads, same⟩ := Option.map_eq_some_iff.1 stands.value_eq
  have part := preorder_infix_of_subtreeAt [] leads
  rw [← stands.above_eq, List.reverse_reverse, List.append_nil, ← walk_eq_preorder] at part
  exact ⟨sub, leads, same, part⟩

theorem StandsAt.mem_walk {t : Rose α} {address : List Nat} {place : Place α} (stands : t.StandsAt address place) :
    place ∈ t.walk := by
  obtain ⟨⟨v, cs⟩, -, same, part⟩ := stands.exists_subtree
  have value_eq : v = place.value := same
  subst value_eq
  apply part.subset
  rw [preorder]
  exact List.mem_cons_self

mutual

theorem preorder_append (above rest : List α) : (t : Rose α) →
    t.preorder (above ++ rest) = (t.preorder above).map fun place => ⟨place.value, place.above ++ rest⟩
  | .node v cs => by
    rw [preorder, preorder, List.map_cons, ← forestPreorder_append (v :: above) rest cs, List.cons_append]

theorem forestPreorder_append (above rest : List α) : (ts : List (Rose α)) →
    forestPreorder (above ++ rest) ts = (forestPreorder above ts).map fun place => ⟨place.value, place.above ++ rest⟩
  | [] => rfl
  | t :: ts => by
    rw [forestPreorder, forestPreorder, List.map_append, preorder_append above rest t,
      forestPreorder_append above rest ts]

end

theorem eq_root_or_above {t : Rose α} {place : Place α} (member : place ∈ t.preorder []) :
    place = ⟨t.value, []⟩ ∨ ∃ near, place.above = near ++ [t.value] := by
  obtain ⟨v, cs⟩ := t
  rw [preorder] at member
  rcases List.mem_cons.1 member with rfl | deeper
  · exact .inl rfl
  · rw [← List.nil_append [v], forestPreorder_append, List.mem_map] at deeper
    obtain ⟨inner, -, rfl⟩ := deeper
    exact .inr ⟨inner.above, rfl⟩

end Rose

section Growth

open NodeTree (IsGrown)

theorem NodeTree.IsGrown.of_subtreeAt {t sub : NodeTree} {address : List Nat} (grown : IsGrown t)
    (leads : t.subtreeAt address = some sub) : IsGrown sub := by
  induction address generalizing t with
  | nil =>
    cases leads
    exact grown
  | cons i rest ih =>
    rw [Rose.subtreeAt, Option.bind_eq_some_iff] at leads
    obtain ⟨c, child, leads⟩ := leads
    have hangs : c ∈ t.value.node.below := by
      rw [← grown]
      exact List.mem_of_getElem? child
    exact ih (Node.allGrown_below _ c hangs) leads

theorem Stmt.value_tree (s : Stmt) : s.tree.value = ⟨.other, .stmt s⟩ := by
  unfold Stmt.tree
  rfl

theorem NodeTree.IsGrown.eq_stmtTree {t : NodeTree} {s : Stmt} (grown : IsGrown t)
    (same : t.value = ⟨.other, .stmt s⟩) : t = s.tree := by
  have children_eq : t.children = s.tree.children := by
    rw [grown, same]
    rfl
  have value_eq : t.value = s.tree.value := same.trans s.value_tree.symm
  obtain ⟨v, cs⟩ := t
  cases tree : s.tree with
  | node v' cs' =>
    rw [tree] at children_eq value_eq
    cases children_eq
    cases value_eq
    rfl

/-- What holds at a module and is kept by every step down from a node holds at all nodes of the module. -/
theorem Module.forall_mem_contexts (m : Module) (holds : Context → Prop) (start : holds ⟨⟨.other, .module m⟩, []⟩)
    (step : ∀ c : Context, holds c → ∀ t ∈ c.node.below, holds ⟨t.value, c.value :: c.above⟩) :
    ∀ c ∈ NodeTree.contexts m.tree, holds c := by
  rw [NodeTree.contexts_eq_inOrder]
  exact m.isGrown_tree.forall_preorder step start

theorem Module.preorder_infix_contexts {m : Module} {address : List Nat} {s : Stmt} {above : List Occurrence}
    (stands : m.tree.StandsAt address ⟨⟨.other, .stmt s⟩, above⟩) :
    s.tree.preorder above <:+: NodeTree.contexts m.tree := by
  obtain ⟨sub, leads, same, part⟩ := stands.exists_subtree
  rw [(m.isGrown_tree.of_subtreeAt leads).eq_stmtTree same] at part
  exact part

end Growth

section Annotations

/-- The annotation of a parameter or of a variable, or that of what a function returns, with its number among the
children of the node. -/
def Node.typeHint? : Node → Option (Nat × Expr)
  | .param p => p.typeHint.map (0, ·)
  | .stmt (.annAssign _ _ typeHint _) => some (1, typeHint)
  | .stmt (.functionDef f) => f.returns.map (1 + f.body.length + f.decorators.length, ·)
  | _ => none

/-- On its way, an address goes from a node to the child that is its annotation. -/
def NodeTree.LeadsIntoAnnotation (t : NodeTree) (address : List Nat) : Prop :=
  ∃ front i rest parent type, address = front ++ i :: rest ∧ t.subtreeAt front = some parent ∧
    parent.value.node.typeHint? = some (i, type)

theorem stmtTrees_eq_map (ss : List Stmt) : stmtTrees ss = ss.map Stmt.tree := by
  induction ss with
  | nil => rfl
  | cons s ss ih => rw [stmtTrees, ih, List.map_cons]

theorem Module.stmt_mem_nodesByLevel {m : Module} {s : Stmt} (listed : s ∈ m.body) :
    .stmt s ∈ NodeTree.nodesByLevel m.tree := by
  have hangs : s.tree ∈ stmtTrees m.body := stmtTrees_eq_map m.body ▸ List.mem_map_of_mem listed
  have occurs := Rose.value_mem_forestValues hangs
  rw [s.value_tree] at occurs
  exact NodeTree.mem_nodesByLevel.2 ⟨_, List.mem_cons_of_mem _ occurs, rfl⟩

theorem exprTrees_eq_map (es : List Expr) : exprTrees es = es.map (Expr.tree .other) := by
  induction es with
  | nil => rfl
  | cons e es ih => rw [exprTrees, ih, List.map_cons]

theorem role_of_mem_optionTree {role : Role} {e : Option Expr} {t : NodeTree} (member : t ∈ optionTree role e) :
    t.value.role = role := by
  cases e with
  | none => cases member
  | some e => rw [List.mem_singleton.1 member, e.value_tree]

end Annotations

section Lineages

def HangsUnder (child parent : Occurrence) : Prop := ∃ t ∈ parent.node.below, t.value = child

def IsLineage (path : List Occurrence) : Prop := path.IsChain HangsUnder

theorem HangsUnder.isPlain {child parent : Occurrence} (hangs : HangsUnder child parent)
    (plain : parent.node.isPlain = true) : child.node.isPlain = true := by
  obtain ⟨t, below, rfl⟩ := hangs
  exact Node.allRoots_below plain t below

theorem isLineage_of_mem_contexts {m : Module} {c : Context} (occurs : c ∈ NodeTree.contexts m.tree) :
    IsLineage (c.value :: c.above) := by
  refine m.forall_mem_contexts (fun c => IsLineage (c.value :: c.above)) ?_ ?_ c occurs
  · exact .singleton _
  · intro c lineage t below
    exact .cons_cons ⟨t, below, rfl⟩ lineage

def Node.isStmt : Node → Bool
  | .stmt _ => true
  | _ => false

theorem Node.isPlain_of_isStmt {node : Node} (isStmt : node.isStmt = true) : node.isPlain = false := by
  cases node with
  | stmt => rfl
  | _ => cases isStmt

theorem exists_stmt_of_mem_contexts {m : Module} {c : Context} (occurs : c ∈ NodeTree.contexts m.tree) :
    c.node = .module m ∨ ∃ o ∈ c.value :: c.above, o.node.isStmt = true := by
  refine m.forall_mem_contexts (fun c => c.node = .module m ∨ ∃ o ∈ c.value :: c.above, o.node.isStmt = true)
    ?_ ?_ c occurs
  · exact .inl rfl
  · intro c found t below
    rcases found with isModule | ⟨o, member, isStmt⟩
    · rw [isModule] at below
      change t ∈ stmtTrees m.body at below
      rw [stmtTrees_eq_map, List.mem_map] at below
      obtain ⟨s, -, rfl⟩ := below
      refine .inr ⟨s.tree.value, List.mem_cons_self, ?_⟩
      rw [s.value_tree]
      rfl
    · exact .inr ⟨o, List.mem_cons_of_mem _ member, isStmt⟩

theorem exists_nearest_stmt {m : Module} {c : Context} (occurs : c ∈ NodeTree.contexts m.tree)
    (plain : c.node.isPlain = true) :
    ∃ near s far, c.above = near ++ s :: far ∧ s.node.isStmt = true ∧ ∀ o ∈ near, o.node.isStmt = false := by
  have listed : ∃ o ∈ c.above, o.node.isStmt = true := by
    rcases exists_stmt_of_mem_contexts occurs with isModule | ⟨o, member, isStmt⟩
    · rw [isModule] at plain
      cases plain
    · rcases List.mem_cons.1 member with rfl | above
      · exact absurd plain (Bool.eq_false_iff.1 (Node.isPlain_of_isStmt isStmt))
      · exact ⟨o, above, isStmt⟩
  obtain ⟨s, found⟩ := Option.isSome_iff_exists.1 (List.find?_isSome.2 listed)
  obtain ⟨isStmt, near, far, split, before⟩ := List.find?_eq_some_iff_append.1 found
  refine ⟨near, s, far, split, isStmt, ?_⟩
  intro o member
  simpa using before o member

end Lineages

end TypingAudit.Ast
