import TypingAudit.Proofs.Ast.Lineages
import TypingAudit.Proofs.Source.NamesRead
import TypingAudit.Proofs.Typing.DynamicNames

/-!
The names that a module which was read binds by importing them or by giving them a value. No such name has a quote in
it, at whatever depth it is bound.
-/

namespace TypingAudit.Typing

open Ast

def boundBy (node : Node) : List String :=
  (importBindings node).map Prod.fst ++
    match node with
    | .stmt s => ((nameBinding? s).map Prod.fst).toList
    | _ => []

def SoundNode (node : Node) : Prop := ∀ name ∈ boundBy node, '\'' ∉ name.toList

instance decidableSoundNode (node : Node) : Decidable (SoundNode node) :=
  inferInstanceAs (Decidable (∀ name ∈ boundBy node, '\'' ∉ name.toList))

theorem soundNode_of_isPlain {node : Node} (plain : node.isPlain = true) : SoundNode node := by
  cases node with
  | stmt => cases plain
  | _ => exact List.forall_mem_nil _

def SoundForest (ts : List NodeTree) : Prop := ∀ o ∈ Rose.forestValues ts, SoundNode o.node

/-- No name that is bound in a statement or further inside has a quote in it. -/
def SoundStmt (s : Stmt) : Prop := ∀ o ∈ s.tree.values, SoundNode o.node

def SoundBody (body : List Stmt) : Prop := ∀ s ∈ body, SoundStmt s

section Bodies

@[simp] theorem soundBody_nil : SoundBody [] := List.forall_mem_nil _

@[simp] theorem soundBody_cons {s : Stmt} {body : List Stmt} : SoundBody (s :: body) ↔ SoundStmt s ∧ SoundBody body :=
  List.forall_mem_cons

@[simp] theorem soundBody_append {first second : List Stmt} :
    SoundBody (first ++ second) ↔ SoundBody first ∧ SoundBody second :=
  List.forall_mem_append

theorem soundBody_singleton {s : Stmt} (sound : SoundStmt s) : SoundBody [s] := List.forall_mem_singleton.2 sound

theorem soundBody_flatMap {α : Type} {items : List α} {body : α → List Stmt} (each : ∀ a ∈ items, SoundBody (body a)) :
    SoundBody (items.flatMap body) := by
  intro s listed
  obtain ⟨a, among, inBody⟩ := List.mem_flatMap.1 listed
  exact each a among s inBody

end Bodies

section Forests

@[simp] theorem soundForest_nil : SoundForest [] := List.forall_mem_nil _

@[simp] theorem soundForest_append {ts us : List NodeTree} :
    SoundForest (ts ++ us) ↔ SoundForest ts ∧ SoundForest us := by
  rw [SoundForest, Rose.forestValues_append]
  exact List.forall_mem_append

theorem soundForest_of_isPlain {ts : List NodeTree} (grown : AllGrown ts) (plain : AllRoots Node.isPlain ts) :
    SoundForest ts := by
  have all : ∀ c ∈ Rose.forestPreorder [] ts, c.value.node.isPlain = true :=
    forall_forestPreorder (fun c plain t hangs => Node.allRoots_below plain t hangs) grown plain
  intro o listed
  rw [← Rose.map_value_forestPreorder [] ts] at listed
  obtain ⟨c, occurs, rfl⟩ := List.mem_map.1 listed
  exact soundNode_of_isPlain (all c occurs)

theorem soundForest_cons_of_isPlain {t : NodeTree} {ts : List NodeTree} (grown : NodeTree.IsGrown t)
    (plain : t.value.node.isPlain = true) : SoundForest (t :: ts) ↔ SoundForest ts := by
  have first := soundForest_of_isPlain (allGrown_cons.2 ⟨grown, allGrown_nil⟩) (allRoots_cons.2 ⟨plain, allRoots_nil⟩)
  rw [← List.singleton_append, soundForest_append]
  exact and_iff_right first

@[simp] theorem soundForest_cons_expr (role : Role) (e : Expr) (ts : List NodeTree) :
    SoundForest (e.tree role :: ts) ↔ SoundForest ts :=
  soundForest_cons_of_isPlain (e.isGrown_tree role) (by rw [e.value_tree]; rfl)

@[simp] theorem soundForest_exprTrees (es : List Expr) : SoundForest (exprTrees es) :=
  soundForest_of_isPlain (allGrown_exprTrees es) (allRoots_exprTrees (fun _ => rfl) es)

@[simp] theorem soundForest_optionTree (role : Role) (e : Option Expr) : SoundForest (optionTree role e) :=
  soundForest_of_isPlain (allGrown_optionTree role e) (allRoots_optionTree (fun _ => rfl) role e)

@[simp] theorem soundForest_keywordTrees (ks : List Keyword) : SoundForest (keywordTrees ks) :=
  soundForest_of_isPlain (allGrown_keywordTrees ks) (allRoots_keywordTrees (fun _ => rfl) ks)

@[simp] theorem soundForest_itemTrees (items : List WithItem) : SoundForest (items.map WithItem.tree) :=
  soundForest_of_isPlain (allGrown_itemTrees items) (allRoots_itemTrees (fun _ => rfl) items)

@[simp] theorem soundForest_aliasTrees (names : List Alias) : SoundForest (names.map Alias.tree) :=
  soundForest_of_isPlain (allGrown_aliasTrees names) (List.forall_mem_map.2 fun _ _ => rfl)

@[simp] theorem soundForest_stmtTrees {body : List Stmt} : SoundForest (stmtTrees body) ↔ SoundBody body := by
  induction body with
  | nil => exact iff_of_true soundForest_nil soundBody_nil
  | cons s body ih =>
    rw [soundBody_cons, ← ih]
    exact List.forall_mem_append

@[simp] theorem soundForest_handlerTrees {handlers : List Handler} :
    SoundForest (handlerTrees handlers) ↔ SoundBody (handlers.flatMap Handler.body) := by
  induction handlers with
  | nil => exact iff_of_true soundForest_nil soundBody_nil
  | cons h handlers ih =>
    obtain ⟨pos, type, name, body⟩ := h
    have own : SoundForest (optionTree .other type ++ stmtTrees body) ↔ SoundBody body := by simp
    rw [List.flatMap_cons, soundBody_append, ← ih, ← own]
    exact List.forall_mem_append.trans (and_congr_left' (List.forall_mem_cons.trans
      (and_iff_right (List.forall_mem_nil _))))

@[simp] theorem soundForest_caseTrees {cases : List MatchCase} :
    SoundForest (caseTrees cases) ↔ SoundBody (cases.flatMap MatchCase.body) := by
  induction cases with
  | nil => exact iff_of_true soundForest_nil soundBody_nil
  | cons c cases ih =>
    obtain ⟨pattern, guard, body⟩ := c
    have own : SoundForest (pattern.tree :: (optionTree .other guard ++ stmtTrees body)) ↔ SoundBody body := by
      rw [soundForest_cons_of_isPlain pattern.isGrown_tree (by rw [pattern.value_tree]; rfl)]
      simp
    rw [List.flatMap_cons, soundBody_append, ← ih, ← own]
    exact List.forall_mem_append.trans (and_congr_left' (List.forall_mem_cons.trans
      (and_iff_right (List.forall_mem_nil _))))

end Forests

section Statements

/-- The statements in the blocks of a statement. -/
def inside : Stmt → List Stmt
  | .functionDef f => f.body
  | .classDef _ _ _ _ body _ | .withBlock _ _ _ body => body
  | .forLoop _ _ _ _ body orelse | .whileLoop _ _ body orelse | .branch _ _ body orelse => body ++ orelse
  | .choice _ _ cases => cases.flatMap MatchCase.body
  | .tryBlock _ _ body handlers orelse finalBody => body ++ handlers.flatMap Handler.body ++ orelse ++ finalBody
  | _ => []

theorem soundForest_below {s : Stmt} :
    SoundForest (Node.stmt s).below ↔ SoundBody (inside s) := by
  cases s
  case functionDef f =>
    obtain ⟨pos, isAsync, name, params, body, decorators, returns⟩ := f
    have plain : params.tree.value.node.isPlain = true := by rw [params.value_tree]; rfl
    change SoundForest (params.tree :: (stmtTrees body ++ exprTrees decorators ++ optionTree .returns returns)) ↔ _
    simp [soundForest_cons_of_isPlain params.isGrown_tree plain, inside]
  case augAssign pos target op value =>
    have grown : NodeTree.IsGrown (Node.leafTree (.binOp op)) := Node.isGrown_leafTree.2 rfl
    change SoundForest [target.tree .other, Node.leafTree (.binOp op), value.tree .other] ↔ _
    simp [soundForest_cons_of_isPlain grown rfl, inside]
  all_goals simp [Node.below, Stmt.tree, Occurrence.tree, Rose.children, inside]

theorem soundStmt_of_inside {s : Stmt} (own : SoundNode (.stmt s)) (each : SoundBody (inside s)) :
    SoundStmt s := by
  have values : s.tree.values = ⟨.other, .stmt s⟩ :: Rose.forestValues (Node.stmt s).below := by
    cases s <;> rfl
  rw [SoundStmt, values]
  exact List.forall_mem_cons.2 ⟨own, soundForest_below.2 each⟩

theorem soundStmt_of_unbound {s : Stmt} (unbound : boundBy (.stmt s) = []) (each : SoundBody (inside s)) :
    SoundStmt s := by
  refine soundStmt_of_inside ?_ each
  rw [SoundNode, unbound]
  exact List.forall_mem_nil _

theorem soundStmt_simple {s : Stmt} (unbound : boundBy (.stmt s) = []) (flat : inside s = []) : SoundStmt s :=
  soundStmt_of_unbound unbound (flat ▸ soundBody_nil)

end Statements

end TypingAudit.Typing

namespace TypingAudit.Source.Grammar

open Ast Typing

/-- Blocks of statements are read as well, and no name they bind has a quote in it. -/
structure Rules.SoundBlocks (rules : Rules) : Prop extends rules.Sound where
  block : Yields SoundToken SoundBody rules.block
  orElse : Yields SoundToken SoundBody rules.orElse

section Imports

variable {inner : Rules}

def SoundAlias (a : Alias) : Prop := '\'' ∉ a.name.toList ∧ ∀ bound ∈ a.asName, '\'' ∉ bound.toList

theorem SoundAlias.plainBinding {a : Alias} (sound : SoundAlias a) : '\'' ∉ (plainBinding a).1.toList := by
  unfold Typing.plainBinding
  split
  next bound given => exact sound.2 bound given
  next =>
    rw [rootName, String.toList_ofList]
    exact fun among => sound.1 (List.takeWhile_subset _ among)

theorem SoundAlias.fromBinding {a : Alias} (sound : SoundAlias a) (module : String) :
    '\'' ∉ (fromBinding module a).1.toList := by
  unfold Typing.fromBinding
  cases given : a.asName with
  | none => exact sound.1
  | some bound => exact sound.2 bound given

theorem quote_notMem_intercalate {names : List String} (each : ∀ name ∈ names, '\'' ∉ name.toList) :
    '\'' ∉ (".".intercalate names).toList := by
  induction names with
  | nil => exact List.not_mem_nil
  | cons first names ih =>
    obtain ⟨begun, later⟩ := List.forall_mem_cons.1 each
    cases names with
    | nil => rwa [String.intercalate_singleton]
    | cons second names =>
      rw [String.intercalate_cons_cons, String.toList_append, String.toList_append, List.mem_append, List.mem_append]
      rintro ((inFirst | inStop) | inRest)
      · exact begun inFirst
      · cases List.mem_singleton.1 inStop
      · exact ih later inRest

theorem sound_dottedName : Yields SoundToken (fun text => '\'' ∉ text.toList) (dottedName inner) := by
  refine .bind sound_name fun first begun => ?_
  refine .bind (.many (.andThen .require fun _ => sound_name) _) fun later others => .pure ?_
  exact quote_notMem_intercalate (List.forall_mem_cons.2 ⟨begun, others⟩)

theorem sound_asName : Yields SoundToken (fun found => ∀ bound ∈ found, '\'' ∉ bound.toList) asName := by
  refine .andThen .eat fun _ => .ite (.map sound_name fun text sound => ?_) (.pure ?_)
  · intro bound found
    cases found
    exact sound
  · intro bound found
    cases found

theorem sound_importNames (pos : Position) : Yields SoundToken SoundStmt (importNames inner pos) := by
  have one : Yields SoundToken SoundAlias (do
      let aliasPos ← here
      let id ← dottedName inner
      let bound ← asName
      pure (⟨aliasPos, id, bound⟩ : Alias)) :=
    .andThen .here fun _ => .bind sound_dottedName fun _ named => .bind sound_asName fun _ bound => .pure ⟨named, bound⟩
  refine .andThen .require fun _ => .bind (.commaSeparated one) fun names each => .pure ?_
  refine soundStmt_of_inside ?_ soundBody_nil
  have bound : boundBy (.stmt (.importNames pos names)) = names.map fun a => (plainBinding a).1 := by
    simp [boundBy, importBindings, nameBinding?, Function.comp_def]
  rw [SoundNode, bound]
  exact List.forall_mem_map.2 fun a listed => (each a listed).plainBinding

theorem sound_importedName : Yields SoundToken SoundAlias importedName :=
  .andThen .here fun _ => .bind sound_name fun _ named => .bind sound_asName fun _ bound => .pure ⟨named, bound⟩

theorem sound_importedNames : Yields SoundToken (fun names => ∀ a ∈ names, SoundAlias a) (importedNames inner) := by
  refine .andThen .here fun pos => .andThen .eat fun _ => .ite (.pure ?_) (.andThen .eat fun _ => .ite ?_ ?_)
  · have star : '\'' ∉ "*".toList := by decide
    refine List.forall_mem_singleton.2 ⟨star, ?_⟩
    intro bound found
    cases found
  · exact .bind sound_importedName fun _ first => .bind (sound_moreElements sound_importedName) fun _ later =>
      .pure (List.forall_mem_cons.2 ⟨first, later⟩)
  · exact .commaSeparated sound_importedName

theorem sound_importFrom (pos : Position) : Yields SoundToken SoundStmt (importFrom inner pos) := by
  have dots : Yields SoundToken (fun _ => True) (importDots inner) := by
    refine .andThen (.repeated (.andThen .peek fun next => ?_)) fun _ => .done
    split
    · exact .andThen .skip fun _ => .done
    · exact .andThen .skip fun _ => .done
    · exact .failure
  unfold importFrom
  dsimp only
  refine .andThen .require fun _ => .andThen dots fun level => .andThen (.optional sound_dottedName) fun module => ?_
  refine .ite .failed (.andThen .require fun _ => .bind sound_importedNames fun names each => .pure ?_)
  refine soundStmt_of_inside ?_ soundBody_nil
  cases module with
  | none => exact List.forall_mem_nil _
  | some module =>
    have bound : boundBy (.stmt (.importFrom pos (some module) names level)) =
        names.map fun a => (fromBinding module a).1 := by
      simp [boundBy, importBindings, nameBinding?, Function.comp_def]
    rw [SoundNode, bound]
    exact List.forall_mem_map.2 fun a listed => (each a listed).fromBinding module

end Imports

section Assignments

theorem quote_notMem_of_plainName? {e : Expr} {id : String} (sound : SoundExpr e) (named : plainName? e = some id) :
    '\'' ∉ id.toList := by
  unfold plainName? at named
  split at named <;> cases named
  exact sound

theorem soundNode_of_nameBinding? {s : Stmt} (noImport : importBindings (.stmt s) = [])
    (each : ∀ entry, nameBinding? s = some entry → '\'' ∉ entry.1.toList) : SoundNode (.stmt s) := by
  intro name bound
  simp only [boundBy, noImport, List.map_nil, List.nil_append, Option.mem_toList, Option.map_eq_some_iff] at bound
  obtain ⟨entry, found, rfl⟩ := bound
  exact each entry found

variable {pos : Position} {target : Expr}

theorem soundStmt_assign {targets : List Expr} (each : ∀ t ∈ targets, SoundExpr t) (value : Expr) :
    SoundStmt (.assign pos targets value) := by
  refine soundStmt_of_inside (soundNode_of_nameBinding? rfl fun entry found => ?_) soundBody_nil
  rcases targets with _ | ⟨target, _ | ⟨second, rest⟩⟩
  · cases found
  · obtain ⟨id, named, rfl⟩ := Option.map_eq_some_iff.1 found
    exact quote_notMem_of_plainName? (each target List.mem_cons_self) named
  · cases found

theorem soundStmt_annAssign (sound : SoundExpr target) (typeHint : Expr) (value : Option Expr) :
    SoundStmt (.annAssign pos target typeHint value) := by
  refine soundStmt_of_inside (soundNode_of_nameBinding? rfl fun entry found => ?_) soundBody_nil
  cases value with
  | none => cases found
  | some value =>
    obtain ⟨id, named, rfl⟩ := Option.map_eq_some_iff.1 found
    exact quote_notMem_of_plainName? sound named

end Assignments

section Simple

variable {inner : Rules} (rules : inner.Sound)
include rules

theorem sound_assigned : Yields SoundToken SoundExpr (assigned inner) :=
  .andThen .nextIs fun _ => .ite (sound_yieldExpr rules) rules.starExpressions

theorem sound_assignChain (pos : Position) (limit : Nat) {targets : List Expr} (each : ∀ t ∈ targets, SoundExpr t) :
    Yields SoundToken SoundStmt (assignChain inner pos limit targets) := by
  induction limit generalizing targets with
  | zero => exact .failure
  | succ limit ih =>
    unfold assignChain
    dsimp only
    refine .andThen .nextIs fun isYield => .bind (sound_assigned rules) fun value sound => .andThen .eat fun _ =>
      .ite (.ite .failed ?_) (.pure (soundStmt_assign (fun t listed => each t (List.mem_reverse.1 listed)) value))
    exact .bind (.orFail fun target found => sound.toTarget found) fun target aimed =>
      ih (List.forall_mem_cons.2 ⟨aimed, each⟩)

theorem sound_expressionStmt (pos : Position) : Yields SoundToken SoundStmt (expressionStmt inner pos) := by
  refine .bind rules.starExpressions fun first sound => .andThen .peek fun next => ?_
  dsimp only
  split
  · refine .andThen .skip fun _ => .andThen (.orFail fun _ _ => trivial) fun _ => ?_
    exact .andThen (sound_assigned rules) fun _ => .pure (soundStmt_simple rfl rfl)
  · refine .andThen .eat fun _ => .ite ?_ (.andThen .eat fun _ => .ite ?_ ?_)
    · exact .bind (.orFail fun target found => sound.toTarget found) fun target aimed =>
        sound_assignChain rules pos _ (List.forall_mem_singleton.2 aimed)
    · refine .bind (.orFail fun target found => sound.toSingleTarget found) fun target aimed => ?_
      refine .andThen rules.expression fun _ => .andThen .eat fun _ => .ite ?_ ?_
      · exact .andThen (.mapped (sound_assigned rules)) fun _ => .pure (soundStmt_annAssign aimed _ _)
      · exact .andThen .done fun _ => .pure (soundStmt_annAssign aimed _ _)
    · exact .pure (soundStmt_simple rfl rfl)

theorem sound_raiseStmt (pos : Position) : Yields SoundToken SoundStmt (raiseStmt inner pos) := by
  refine .andThen .require fun _ => .andThen (.optional rules.expression) fun raised => ?_
  split
  · exact .pure (soundStmt_simple rfl rfl)
  · refine .andThen .eat fun _ => .ite ?_ ?_
    · exact .andThen (.mapped rules.expression) fun _ => .pure (soundStmt_simple rfl rfl)
    · exact .andThen .done fun _ => .pure (soundStmt_simple rfl rfl)

theorem sound_deleteStmt (pos : Position) : Yields SoundToken SoundStmt (deleteStmt inner pos) := by
  refine .andThen .require fun _ => .andThen (.commaSeparated (.bind rules.primary fun value sound =>
    .orFail fun target found => sound.toTarget found)) fun _ => ?_
  exact .andThen .eat fun _ => .pure (soundStmt_simple rfl rfl)

theorem sound_assertStmt (pos : Position) : Yields SoundToken SoundStmt (assertStmt inner pos) := by
  refine .andThen .require fun _ => .andThen rules.expression fun _ => .andThen .eat fun _ => .ite ?_ ?_
  · exact .andThen (.mapped rules.expression) fun _ => .pure (soundStmt_simple rfl rfl)
  · exact .andThen .done fun _ => .pure (soundStmt_simple rfl rfl)

theorem sound_simpleStmt : Yields SoundToken SoundStmt (simpleStmt inner) := by
  refine .andThen .here fun pos => .andThen .peek fun next => ?_
  split
  · split
    · exact .andThen .skip fun _ => .andThen (.optional rules.starExpressions) fun _ => .pure (soundStmt_simple rfl rfl)
    · exact sound_importNames pos
    · exact sound_importFrom pos
    · exact sound_raiseStmt rules pos
    · exact .andThen .skip fun _ => .pure (soundStmt_simple rfl rfl)
    · exact sound_deleteStmt rules pos
    · exact .map (sound_yieldExpr rules) fun _ _ => soundStmt_simple rfl rfl
    · exact sound_assertStmt rules pos
    · exact .andThen .skip fun _ => .pure (soundStmt_simple rfl rfl)
    · exact .andThen .skip fun _ => .pure (soundStmt_simple rfl rfl)
    · exact .andThen .skip fun _ => .map (.commaSeparated sound_name) fun _ _ => soundStmt_simple rfl rfl
    · exact .andThen .skip fun _ => .map (.commaSeparated sound_name) fun _ _ => soundStmt_simple rfl rfl
    · exact sound_expressionStmt rules pos
  · exact sound_expressionStmt rules pos

theorem sound_simpleStmts : Yields SoundToken SoundBody (simpleStmts inner) := by
  refine .bind (sound_simpleStmt rules) fun first sound => ?_
  refine .bind (.many (.andThen .require fun _ => sound_simpleStmt rules) _) fun later others => ?_
  exact .andThen .eat fun _ => .andThen .require fun _ => .pure (soundBody_cons.2 ⟨sound, others⟩)

end Simple

section Compound

variable {inner : Rules} (rules : inner.SoundBlocks)
include rules

theorem sound_elseBlock : Yields SoundToken SoundBody (elseBlock inner) :=
  .andThen .eat fun _ => .ite (.andThen .require fun _ => rules.block) (.pure soundBody_nil)

theorem sound_orElse : Yields SoundToken SoundBody (orElse inner) := by
  refine .andThen .here fun _ => .andThen .eat fun _ => .ite ?_ (sound_elseBlock rules)
  refine .andThen rules.named fun _ => .andThen .require fun _ => .bind rules.block fun body sound => ?_
  refine .bind rules.orElse fun rest later => .pure (soundBody_singleton ?_)
  exact soundStmt_of_unbound rfl (soundBody_append.2 ⟨sound, later⟩)

theorem sound_ifStmt (pos : Position) : Yields SoundToken SoundStmt (ifStmt inner pos) := by
  refine .andThen .require fun _ => .andThen rules.named fun _ => .andThen .require fun _ => ?_
  exact .bind rules.block fun _ body => .bind rules.orElse fun _ rest =>
    .pure (soundStmt_of_unbound rfl (soundBody_append.2 ⟨body, rest⟩))

theorem sound_whileStmt (pos : Position) : Yields SoundToken SoundStmt (whileStmt inner pos) := by
  refine .andThen .require fun _ => .andThen rules.named fun _ => .andThen .require fun _ => ?_
  exact .bind rules.block fun _ body => .bind (sound_elseBlock rules) fun _ rest =>
    .pure (soundStmt_of_unbound rfl (soundBody_append.2 ⟨body, rest⟩))

theorem sound_forStmt (pos : Position) (isAsync : Bool) :
    Yields SoundToken SoundStmt (forStmt inner pos isAsync) := by
  refine .andThen .require fun _ => .andThen (sound_loopTargets rules.toSound) fun _ => .andThen .require fun _ => ?_
  refine .andThen rules.starExpressions fun _ => .andThen .require fun _ => ?_
  exact .bind rules.block fun _ body => .bind (sound_elseBlock rules) fun _ rest =>
    .pure (soundStmt_of_unbound rfl (soundBody_append.2 ⟨body, rest⟩))

theorem sound_withStmt (pos : Position) (isAsync : Bool) :
    Yields SoundToken SoundStmt (withStmt inner pos isAsync) := by
  have item : Yields SoundToken (fun _ => True) (withItem inner) := by
    refine .andThen rules.expression fun _ => .andThen .eat fun _ => .ite ?_ (.andThen .done fun _ => .done)
    exact .andThen (.mapped (sound_loopTarget rules.toSound)) fun _ => .done
  have enclosed : Yields SoundToken (fun _ => True) (enclosedItems inner) :=
    .andThen .require fun _ => .andThen item fun _ => .andThen (sound_moreElements item) fun _ =>
      .andThen .require fun _ => .done
  have opened : Yields SoundToken (fun _ => True) (openItems inner) :=
    .andThen (.commaSeparated item) fun _ => .andThen .require fun _ => .done
  refine .andThen .require fun _ => .andThen (.optional enclosed) fun found => ?_
  dsimp only
  split
  · exact .andThen .done fun _ => .bind rules.block fun _ body => .pure (soundStmt_of_unbound rfl body)
  · exact .andThen opened fun _ => .bind rules.block fun _ body => .pure (soundStmt_of_unbound rfl body)

theorem sound_handler (isStar : Bool) :
    Yields SoundToken (fun h => SoundBody h.body) (handler inner isStar) := by
  unfold handler
  dsimp only
  refine .andThen .here fun _ => .andThen .require fun _ => .ite (.andThen .require fun _ => ?_) ?_
  all_goals
    refine .andThen .eat fun _ => .ite (.bind rules.block fun _ body => .pure body) ?_
    refine .andThen rules.expression fun _ => .andThen sound_asName fun _ => .andThen .require fun _ => ?_
    exact .bind rules.block fun _ body => .pure body

theorem sound_finallyBlock : Yields SoundToken SoundBody (finallyBlock inner) :=
  .andThen .require fun _ => .andThen .require fun _ => rules.block

theorem sound_tryStmt (pos : Position) : Yields SoundToken SoundStmt (tryStmt inner pos) := by
  have star : Yields SoundToken (fun _ => True) nextIsStarHandler := by
    intro tokens a rest held read
    unfold nextIsStarHandler at read
    split at read <;> cases read <;> exact ⟨trivial, held⟩
  have sound : ∀ {isStar handlers body orelse finalBody}, SoundBody body →
      (∀ h ∈ handlers, SoundBody (Handler.body h)) → SoundBody orelse → SoundBody finalBody →
      SoundStmt (.tryBlock pos isStar body handlers orelse finalBody) := by
    intro isStar handlers body orelse finalBody main handled other final
    have tried := soundBody_append.2 ⟨main, soundBody_flatMap handled⟩
    have passed := soundBody_append.2 ⟨tried, other⟩
    exact soundStmt_of_unbound rfl (soundBody_append.2 ⟨passed, final⟩)
  refine .andThen .require fun _ => .andThen .require fun _ => .bind rules.block fun _ main => .andThen .nextIs fun _ =>
    .ite (.bind (sound_finallyBlock rules) fun _ final => .pure (sound main (List.forall_mem_nil _) soundBody_nil final)) ?_
  refine .andThen star fun isStar => .bind (.many1 (sound_handler rules isStar)) fun _ handled => ?_
  refine .bind (sound_elseBlock rules) fun _ other => .andThen .nextIs fun _ => .ite ?_ ?_
  · exact .bind (sound_finallyBlock rules) fun _ final => .pure (sound main handled other final)
  · exact .bind (.pure soundBody_nil) fun _ final => .pure (sound main handled other final)

theorem sound_functionDef (pos : Position) (isAsync : Bool) (decorators : List Expr) :
    Yields SoundToken SoundStmt (functionDef inner pos isAsync decorators) := by
  refine .andThen .require fun _ => .andThen .name fun _ => .andThen .require fun _ => ?_
  refine .andThen (sound_params rules.toSound) fun _ => .andThen .require fun _ => .andThen .eat fun _ => .ite ?_ ?_
  · exact .andThen (.mapped rules.expression) fun _ => .andThen .require fun _ => .bind rules.block fun _ body =>
      .pure (soundStmt_of_unbound rfl body)
  · exact .andThen .done fun _ => .andThen .require fun _ => .bind rules.block fun _ body =>
      .pure (soundStmt_of_unbound rfl body)

theorem sound_classDef (pos : Position) (decorators : List Expr) :
    Yields SoundToken SoundStmt (classDef inner pos decorators) := by
  refine .andThen .require fun _ => .andThen .name fun _ => .andThen .eat fun _ =>
    .ite (.andThen (sound_arguments rules.toSound none) fun _ => ?_) (.andThen .done fun _ => ?_)
  all_goals
    exact .andThen .require fun _ => .bind rules.block fun _ body => .pure (soundStmt_of_unbound rfl body)

theorem sound_decorated : Yields SoundToken SoundStmt (decorated inner) := by
  have decorator : Yields SoundToken (fun _ => True) (decorator inner) :=
    .andThen .require fun _ => .andThen rules.named fun _ => .andThen .require fun _ => .done
  refine .andThen (.many1 decorator) fun _ => .andThen .here fun pos => .andThen .nextIs fun _ => .ite ?_ ?_
  · exact sound_classDef rules pos _
  · exact .andThen .eat fun _ => sound_functionDef rules pos _ _

theorem sound_asyncStmt (pos : Position) : Yields SoundToken SoundStmt (asyncStmt inner pos) := by
  refine .andThen .require fun _ => .andThen .nextIs fun _ => .ite ?_ (.andThen .nextIs fun _ => .ite ?_ ?_)
  · exact sound_functionDef rules pos true []
  · exact sound_withStmt rules pos true
  · exact sound_forStmt rules pos true

theorem sound_caseBlock : Yields SoundToken (fun c => SoundBody c.body) (caseBlock inner) := by
  refine .andThen .softKeyword fun _ => .andThen (sound_patterns rules.toSound) fun _ => .andThen .eat fun _ =>
    .ite (.andThen (.mapped rules.named) fun _ => ?_) (.andThen .done fun _ => ?_)
  all_goals exact .andThen .require fun _ => .bind rules.block fun _ body => .pure body

theorem sound_subject : Yields SoundToken SoundExpr (subject inner) := by
  refine .andThen .here fun _ => .bind (sound_element rules.toSound) fun first sound => ?_
  refine .andThen .nextIs fun _ => .ite ?_ (.ite .failure (.pure sound))
  refine .andThen (.many (.andThen .require fun _ => sound_element rules.toSound) _) fun _ => ?_
  exact .andThen .eat fun _ => .pure trivial

theorem sound_matchStmt (pos : Position) : Yields SoundToken SoundStmt (matchStmt inner pos) := by
  refine .andThen .softKeyword fun _ => .andThen (sound_subject rules) fun _ => .andThen .require fun _ => ?_
  refine .andThen .require fun _ => .andThen .require fun _ => ?_
  refine .bind (.many1 (sound_caseBlock rules)) fun cases each => ?_
  exact .andThen .require fun _ => .pure (soundStmt_of_unbound rfl (soundBody_flatMap each))

theorem sound_compoundKeyword? {word : String} {rule : Rules → Position → Parser Stmt}
    (found : compoundKeyword? word = some rule) (pos : Position) : Yields SoundToken SoundStmt (rule inner pos) := by
  unfold compoundKeyword? at found
  split at found <;> cases found
  · exact sound_ifStmt rules pos
  · exact sound_whileStmt rules pos
  · exact sound_forStmt rules pos false
  · exact sound_withStmt rules pos false
  · exact sound_tryStmt rules pos
  · exact sound_functionDef rules pos false []
  · exact sound_classDef rules pos []
  · exact sound_asyncStmt rules pos

theorem sound_statement : Yields SoundToken SoundBody (statement inner) := by
  have single : ∀ {p : Parser Stmt}, Yields SoundToken SoundStmt p →
      Yields SoundToken SoundBody (p >>= fun s => pure [s]) :=
    fun one => .bind one fun _ sound => .pure (soundBody_singleton sound)
  refine .andThen .here fun pos => .andThen .peek fun next => ?_
  split
  · split
    next found => exact single (sound_compoundKeyword? rules found pos)
    next => exact sound_simpleStmts rules.toSound
  · exact single (sound_decorated rules)
  · refine .bind (.optional (sound_matchStmt rules pos)) fun found sound => ?_
    split
    · exact .pure (soundBody_singleton (sound _ rfl))
    · exact sound_simpleStmts rules.toSound
  · exact sound_simpleStmts rules.toSound

theorem sound_statements : Yields SoundToken SoundBody (statements inner) := by
  refine .map (.many (sound_statement rules) _) fun blocks each => ?_
  rw [← List.flatMap_id]
  exact soundBody_flatMap each

theorem sound_block : Yields SoundToken SoundBody (block inner) := by
  refine .andThen .eat fun _ => .ite (.andThen .require fun _ => ?_) (sound_simpleStmts rules.toSound)
  refine .bind (.many1 (sound_statement rules)) fun blocks each => .andThen .require fun _ => .pure ?_
  rw [← List.flatMap_id]
  exact soundBody_flatMap each

end Compound

section Depth

theorem Rules.SoundBlocks.extend {inner : Rules} (rules : inner.SoundBlocks) : inner.extend.SoundBlocks where
  expression := sound_expression rules.toSound
  named := sound_namedExpression rules.toSound
  starExpressions := sound_starExpressions rules.toSound
  disjunction := sound_disjunction rules.toSound
  inversion := sound_inversion rules.toSound
  bitwiseOr := sound_bitwiseOr rules.toSound
  factor := sound_factor rules.toSound
  primary := sound_primary rules.toSound
  pattern := sound_pattern rules.toSound
  block := sound_block rules
  orElse := sound_orElse rules

theorem soundBlocks_none (limit : Nat) : (Rules.none limit).SoundBlocks where
  expression := .failure
  named := .failure
  starExpressions := .failure
  disjunction := .failure
  inversion := .failure
  bitwiseOr := .failure
  factor := .failure
  primary := .failure
  pattern := .failure
  block := .failure
  orElse := .failure

theorem soundBlocks_ofDepth (limit depth : Nat) : (Rules.ofDepth limit depth).SoundBlocks := by
  induction depth with
  | zero => exact soundBlocks_none limit
  | succ depth ih => exact ih.extend

theorem sound_wholeModule {inner : Rules} (rules : inner.SoundBlocks) :
    Yields SoundToken (fun m => SoundBody m.body) (wholeModule inner) :=
  .bind (sound_statements rules) fun _ each => .andThen .require fun _ => .pure each

end Depth

end TypingAudit.Source.Grammar

namespace TypingAudit.Source

open Ast Typing Grammar

theorem soundStmt_of_parseDecoded {text : Decoded} {m : Module} (read : parseDecoded text = some m) :
    SoundBody m.body := by
  obtain ⟨tokens, scanned, read⟩ := Option.bind_eq_some_iff.1 read
  split at read
  · cases read
  · obtain ⟨⟨found, rest⟩, ruled, same⟩ := Option.bind_eq_some_iff.1 read
    cases same
    exact (sound_wholeModule (soundBlocks_ofDepth _ _) tokens m rest (soundToken_of_tokensAt scanned) ruled).1

/-- No name that a module binds has a quote in it, if the module was read from a text. -/
theorem soundNode_of_parseBytes {bytes : List UInt8} {m : Module} (read : parseBytes bytes = some m) {node : Node}
    (occurs : node ∈ NodeTree.nodesByLevel m.tree) : SoundNode node := by
  obtain ⟨text, -, read⟩ := Option.bind_eq_some_iff.1 read
  obtain ⟨o, listed, rfl⟩ := NodeTree.mem_nodesByLevel.1 occurs
  rcases List.mem_cons.1 listed with rfl | below
  · exact List.forall_mem_nil _
  · exact soundForest_stmtTrees.2 (soundStmt_of_parseDecoded read) o below

end TypingAudit.Source
