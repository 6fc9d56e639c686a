import TypingAudit.Ast.Node
import TypingAudit.Ast.Printer
import TypingAudit.Proofs.Ast.Preorder
import TypingAudit.Proofs.Computation

/-!
Which expressions have a text. Only two kinds of nodes can keep an expression from being written: an integer
with too many digits, and a replacement field whose own expression comes out with a backslash. An expression
without such a node below it has a text at every level and in every place.
-/

namespace TypingAudit.Ast

open Printer Rose

def Node.Unwritable : Node → Prop
  | .expr (.constant _ (.int n)) => Nat.pow 10 maxIntegerDigits ≤ n
  | .expr (.formatted _ value _ _) =>
    ∃ text, value.printAt true (Level.next .test) = .ok text ∧ '\\' ∈ text.toList
  | _ => False

def WritableTree (t : NodeTree) : Prop := ∀ o ∈ t.values, ¬o.node.Unwritable

def WritableForest (ts : List NodeTree) : Prop := ∀ o ∈ forestValues ts, ¬o.node.Unwritable

@[simp] theorem writableTree_node (role : Role) (node : Node) (ts : List NodeTree) :
    WritableTree (Occurrence.tree role node ts) ↔ ¬node.Unwritable ∧ WritableForest ts := by
  simp [WritableTree, WritableForest, Occurrence.tree, values]

@[simp] theorem writableForest_nil : WritableForest [] := by
  simp [WritableForest, forestValues]

@[simp] theorem writableForest_cons (t : NodeTree) (ts : List NodeTree) :
    WritableForest (t :: ts) ↔ WritableTree t ∧ WritableForest ts := by
  simp [WritableTree, WritableForest, forestValues, or_imp, forall_and]

@[simp] theorem writableForest_append (ts us : List NodeTree) :
    WritableForest (ts ++ us) ↔ WritableForest ts ∧ WritableForest us := by
  simp [WritableForest, forestValues_append, or_imp, forall_and]

theorem Constant.print_succeeds (sparing : Bool) (value : Constant)
    (short : ∀ n, value = .int n → ¬Nat.pow 10 maxIntegerDigits ≤ n) : Succeeds (value.print sparing) := by
  cases value with
  | int n => exact ⟨toString n, by rw [Constant.print, Constant.printInt, if_neg (short n rfl)]⟩
  | bool value => cases value <;> exact ⟨_, rfl⟩
  | none => exact ⟨_, rfl⟩
  | ellipsis => exact ⟨_, rfl⟩
  | str text marked => exact ⟨_, rfl⟩
  | bytes data => exact ⟨_, rfl⟩
  | float value => exact ⟨_, rfl⟩
  | imaginary value => exact ⟨_, rfl⟩

theorem withoutBackslash_succeeds {text : String} (absent : '\\' ∉ text.toList) :
    Succeeds (withoutBackslash text) := by
  refine ⟨text, ?_⟩
  rw [withoutBackslash, if_neg (by simpa using absent)]

/-- A tuple that stands as an index loses its parentheses, and has a text whenever it has one with them. -/
theorem printAt_subscript_succeeds {sparing : Bool} {level : Level} {pos : Source.Position}
    {value index : Expr} {usage : Usage} (hasValue : Succeeds (value.printAt sparing .atom))
    (hasIndex : Succeeds (index.printAt sparing .test)) :
    Succeeds ((Expr.subscript pos value index usage).printAt sparing level) := by
  by_cases bare : ∃ tuplePos first rest tupleUsage, index = .tuple tuplePos (first :: rest) tupleUsage
  · obtain ⟨tuplePos, first, rest, tupleUsage, rfl⟩ := bare
    rw [Expr.printAt, printAll] at hasIndex
    obtain ⟨texts, elements, -⟩ := hasIndex.of_bind
    obtain ⟨firstText, hasFirst, others⟩ := Succeeds.of_bind ⟨texts, elements⟩
    obtain ⟨restTexts, hasRest, -⟩ := others.of_bind
    rw [Expr.printAt]
    exact hasValue.bind fun _ _ => Succeeds.bind ⟨_, hasFirst⟩ fun _ _ => Succeeds.andThen ⟨_, hasRest⟩
  · rw [Expr.printAt]
    · exact hasValue.bind fun _ _ => hasIndex.andThen
    · intro tuplePos first rest tupleUsage same
      exact bare ⟨tuplePos, first, rest, tupleUsage, same⟩

mutual

theorem Expr.printAt_succeeds (sparing : Bool) (level : Level) (role : Role) :
    (e : Expr) → WritableTree (e.tree role) → Succeeds (e.printAt sparing level)
  | .boolOp pos op values, writable => by
    simp only [Expr.tree, writableTree_node, writableForest_cons] at writable
    rw [Expr.printAt]
    exact (printRising_succeeds sparing op.level 0 values writable.2.2).andThen
  | .named pos target value, writable => by
    simp only [Expr.tree, writableTree_node, writableForest_cons] at writable
    rw [Expr.printAt]
    exact (target.printAt_succeeds sparing .atom .other writable.2.1).bind fun _ _ =>
      (value.printAt_succeeds sparing .atom .other writable.2.2.1).andThen
  | .binOp pos left op right, writable => by
    simp only [Expr.tree, writableTree_node, writableForest_cons] at writable
    rw [Expr.printAt]
    exact (left.printAt_succeeds sparing _ .other writable.2.1).bind fun _ _ =>
      (right.printAt_succeeds sparing _ .other writable.2.2.2.1).andThen
  | .unaryOp pos op operand, writable => by
    simp only [Expr.tree, writableTree_node, writableForest_cons] at writable
    rw [Expr.printAt]
    exact (operand.printAt_succeeds sparing _ .other writable.2.2.1).andThen
  | .lambda pos params body, writable => by
    simp only [Expr.tree, writableTree_node, writableForest_cons] at writable
    rw [Expr.printAt]
    exact (params.print_succeeds sparing writable.2.1).bind fun _ _ =>
      (body.printAt_succeeds sparing .test .other writable.2.2.1).andThen
  | .ifExp pos test body orelse, writable => by
    simp only [Expr.tree, writableTree_node, writableForest_cons] at writable
    rw [Expr.printAt]
    exact (body.printAt_succeeds sparing _ .thenBranch writable.2.2.1).bind fun _ _ =>
      (test.printAt_succeeds sparing _ .other writable.2.1).bind fun _ _ =>
        (orelse.printAt_succeeds sparing _ .elseBranch writable.2.2.2.1).andThen
  | .dict pos keys values, writable => by
    simp only [Expr.tree, writableTree_node, writableForest_append] at writable
    rw [Expr.printAt]
    exact (printOptions_succeeds sparing keys writable.2.1).bind fun _ _ =>
      (printLevels_succeeds sparing (valueLevels keys) values writable.2.2).andThen
  | .set pos elts, writable => by
    simp only [Expr.tree, writableTree_node] at writable
    rw [Expr.printAt]
    exact (printAll_succeeds sparing elts writable.2).andThen
  | .listComp pos elt generators, writable => by
    simp only [Expr.tree, writableTree_node, writableForest_cons] at writable
    rw [Expr.printAt]
    exact (elt.printAt_succeeds sparing .test .other writable.2.1).bind fun _ _ =>
      (printGenerators_succeeds sparing generators writable.2.2).andThen
  | .setComp pos elt generators, writable => by
    simp only [Expr.tree, writableTree_node, writableForest_cons] at writable
    rw [Expr.printAt]
    exact (elt.printAt_succeeds sparing .test .other writable.2.1).bind fun _ _ =>
      (printGenerators_succeeds sparing generators writable.2.2).andThen
  | .dictComp pos key value generators, writable => by
    simp only [Expr.tree, writableTree_node, writableForest_cons] at writable
    rw [Expr.printAt]
    exact (key.printAt_succeeds sparing .test .other writable.2.1).bind fun _ _ =>
      (value.printAt_succeeds sparing .test .other writable.2.2.1).bind fun _ _ =>
        (printGenerators_succeeds sparing generators writable.2.2.2).andThen
  | .generator pos elt generators, writable => by
    simp only [Expr.tree, writableTree_node, writableForest_cons] at writable
    rw [Expr.printAt]
    exact (elt.printAt_succeeds sparing .test .other writable.2.1).bind fun _ _ =>
      (printGenerators_succeeds sparing generators writable.2.2).andThen
  | .await pos value, writable => by
    simp only [Expr.tree, writableTree_node, writableForest_cons] at writable
    rw [Expr.printAt]
    exact (value.printAt_succeeds sparing .atom .other writable.2.1).andThen
  | .yield pos value, writable => by
    simp only [Expr.tree, writableTree_node] at writable
    rw [Expr.printAt]
    exact (printOption_succeeds sparing .atom .other value writable.2).andThen
  | .yieldFrom pos value, writable => by
    simp only [Expr.tree, writableTree_node, writableForest_cons] at writable
    rw [Expr.printAt]
    exact (value.printAt_succeeds sparing .atom .other writable.2.1).andThen
  | .compare pos left ops comparators, writable => by
    simp only [Expr.tree, writableTree_node, writableForest_cons, writableForest_append] at writable
    rw [Expr.printAt]
    exact (left.printAt_succeeds sparing _ .other writable.2.1.1).bind fun _ _ =>
      (printAllAt_succeeds sparing _ comparators writable.2.2).andThen
  | .call pos func args keywords, writable => by
    simp only [Expr.tree, writableTree_node, writableForest_cons, writableForest_append] at writable
    rw [Expr.printAt]
    exact (func.printAt_succeeds sparing .atom .other writable.2.1).bind fun _ _ =>
      (printAll_succeeds sparing args writable.2.2.1).bind fun _ _ =>
        (printKeywords_succeeds sparing keywords writable.2.2.2).andThen
  | .formatted pos value conversion spec, writable => by
    simp only [Expr.tree, writableTree_node, writableForest_cons] at writable
    rw [Expr.printAt]
    refine (value.printAt_succeeds true _ .other writable.2.1).bind fun text written => ?_
    refine (withoutBackslash_succeeds fun present => writable.1 ⟨text, written, present⟩).bind fun _ _ => ?_
    exact (printSpec_succeeds spec writable.2.2).andThen
  | .joined pos values, writable => by
    simp only [Expr.tree, writableTree_node] at writable
    rw [Expr.printAt]
    exact (printParts_succeeds values writable.2).andThen
  | .constant pos value, writable => by
    simp only [Expr.tree, writableTree_node] at writable
    rw [Expr.printAt]
    apply value.print_succeeds sparing
    rintro n rfl
    exact writable.1
  | .attribute pos value attr usage, writable => by
    simp only [Expr.tree, writableTree_node, writableForest_cons] at writable
    rw [Expr.printAt]
    exact (value.printAt_succeeds sparing .atom .other writable.2.1).andThen
  | .subscript pos value index usage, writable => by
    simp only [Expr.tree, writableTree_node, writableForest_cons] at writable
    exact printAt_subscript_succeeds (value.printAt_succeeds sparing .atom .other writable.2.1)
      (index.printAt_succeeds sparing .test .other writable.2.2.1)
  | .starred pos value usage, writable => by
    simp only [Expr.tree, writableTree_node, writableForest_cons] at writable
    rw [Expr.printAt]
    exact (value.printAt_succeeds sparing .bitOr .other writable.2.1).andThen
  | .name pos id usage, writable => by
    rw [Expr.printAt]
    exact Succeeds.pure id
  | .list pos elts usage, writable => by
    simp only [Expr.tree, writableTree_node, writableForest_append] at writable
    rw [Expr.printAt]
    exact (printAll_succeeds sparing elts writable.2.1).andThen
  | .tuple pos elts usage, writable => by
    simp only [Expr.tree, writableTree_node, writableForest_append] at writable
    rw [Expr.printAt]
    exact (printAll_succeeds sparing elts writable.2.1).andThen
  | .slice pos lower upper step, writable => by
    simp only [Expr.tree, writableTree_node, writableForest_append] at writable
    rw [Expr.printAt]
    exact (printOption_succeeds sparing .test .other lower writable.2.1.1).bind fun _ _ =>
      (printOption_succeeds sparing .test .other upper writable.2.1.2).bind fun _ _ =>
        (printOption_succeeds sparing .test .other step writable.2.2).andThen

theorem printAllAt_succeeds (sparing : Bool) (level : Level) :
    (es : List Expr) → WritableForest (exprTrees es) → Succeeds (printAllAt sparing level es)
  | [], _ => by
    rw [printAllAt]
    exact Succeeds.pure []
  | e :: es, writable => by
    simp only [exprTrees, writableForest_cons] at writable
    rw [printAllAt]
    exact (e.printAt_succeeds sparing level .other writable.1).bind fun _ _ =>
      (printAllAt_succeeds sparing level es writable.2).andThen

theorem printAll_succeeds (sparing : Bool) :
    (es : List Expr) → WritableForest (exprTrees es) → Succeeds (printAll sparing es)
  | [], _ => by
    rw [printAll]
    exact Succeeds.pure []
  | e :: es, writable => by
    simp only [exprTrees, writableForest_cons] at writable
    rw [printAll]
    exact (e.printAt_succeeds sparing .test .other writable.1).bind fun _ _ =>
      (printAll_succeeds sparing es writable.2).andThen

theorem printRising_succeeds (sparing : Bool) (level : Level) (index : Nat) :
    (es : List Expr) → WritableForest (operandTrees index es) → Succeeds (printRising sparing level es)
  | [], _ => by
    rw [printRising]
    exact Succeeds.pure []
  | e :: es, writable => by
    simp only [operandTrees, writableForest_cons] at writable
    rw [printRising]
    exact (e.printAt_succeeds sparing _ (.operand index) writable.1).bind fun _ _ =>
      (printRising_succeeds sparing _ (index + 1) es writable.2).andThen

theorem printLevels_succeeds (sparing : Bool) (levels : List Level) :
    (es : List Expr) → WritableForest (exprTrees es) → Succeeds (printLevels sparing levels es)
  | [], _ => by
    rw [printLevels]
    exact Succeeds.pure []
  | e :: es, writable => by
    simp only [exprTrees, writableForest_cons] at writable
    rw [printLevels]
    exact (e.printAt_succeeds sparing _ .other writable.1).bind fun _ _ =>
      (printLevels_succeeds sparing levels.tail es writable.2).andThen

theorem printOption_succeeds (sparing : Bool) (level : Level) (role : Role) :
    (e : Option Expr) → WritableForest (optionTree role e) → Succeeds (printOption sparing level e)
  | none, _ => by
    rw [printOption]
    exact Succeeds.pure none
  | some e, writable => by
    simp only [optionTree, writableForest_cons] at writable
    rw [printOption]
    exact (e.printAt_succeeds sparing level role writable.1).andThen

theorem printOptions_succeeds (sparing : Bool) :
    (es : List (Option Expr)) → WritableForest (optionTrees es) → Succeeds (printOptions sparing es)
  | [], _ => by
    rw [printOptions]
    exact Succeeds.pure []
  | e :: es, writable => by
    simp only [optionTrees, writableForest_append] at writable
    rw [printOptions]
    exact (printOption_succeeds sparing .test .other e writable.1).bind fun _ _ =>
      (printOptions_succeeds sparing es writable.2).andThen

theorem Param.print_succeeds (sparing : Bool) (role : Role) :
    (p : Param) → WritableTree (p.tree role) → Succeeds (p.print sparing)
  | ⟨pos, name, typeHint⟩, writable => by
    simp only [Param.tree, writableTree_node] at writable
    rw [Param.print]
    refine (printOption_succeeds sparing .test .typeHint typeHint writable.2).bind fun type _ => ?_
    cases type <;> exact Succeeds.pure _

theorem printParams_succeeds (sparing : Bool) (role : Nat → Role) (index : Nat) :
    (ps : List Param) → WritableForest (paramTrees role index ps) → Succeeds (printParams sparing ps)
  | [], _ => by
    rw [printParams]
    exact Succeeds.pure []
  | p :: ps, writable => by
    simp only [paramTrees, writableForest_cons] at writable
    rw [printParams]
    exact (p.print_succeeds sparing (role index) writable.1).bind fun _ _ =>
      (printParams_succeeds sparing role (index + 1) ps writable.2).andThen

theorem printParam?_succeeds (sparing : Bool) (role : Role) :
    (p : Option Param) → WritableForest (paramTree? role p) → Succeeds (printParam? sparing p)
  | none, _ => by
    rw [printParam?]
    exact Succeeds.pure none
  | some p, writable => by
    simp only [paramTree?, writableForest_cons] at writable
    rw [printParam?]
    exact (p.print_succeeds sparing role writable.1).andThen

theorem Params.print_succeeds (sparing : Bool) :
    (ps : Params) → WritableTree ps.tree → Succeeds (ps.print sparing)
  | ⟨posOnly, regular, varArg, kwOnly, kwDefaults, kwArg, defaults⟩, writable => by
    simp only [Params.tree, writableTree_node, writableForest_append] at writable
    obtain ⟨-, ⟨⟨⟨⟨⟨hasPosOnly, hasRegular⟩, hasVarArg⟩, hasKwOnly⟩, hasKwDefaults⟩, hasKwArg⟩,
      hasDefaults⟩ := writable
    rw [Params.print]
    exact (printParams_succeeds sparing .posOnly 0 posOnly hasPosOnly).bind fun _ _ =>
      (printParams_succeeds sparing .regular 0 regular hasRegular).bind fun _ _ =>
        (printAll_succeeds sparing defaults hasDefaults).bind fun _ _ =>
          (printParam?_succeeds sparing .varArg varArg hasVarArg).bind fun _ _ =>
            (printParams_succeeds sparing .kwOnly 0 kwOnly hasKwOnly).bind fun _ _ =>
              (printOptions_succeeds sparing kwDefaults hasKwDefaults).bind fun _ _ =>
                (printParam?_succeeds sparing .kwArg kwArg hasKwArg).andThen

theorem Keyword.print_succeeds (sparing : Bool) :
    (k : Keyword) → WritableTree k.tree → Succeeds (k.print sparing)
  | ⟨pos, name, value⟩, writable => by
    simp only [Keyword.tree, writableTree_node, writableForest_cons] at writable
    rw [Keyword.print]
    refine (value.printAt_succeeds sparing .test .other writable.2.1).bind fun text _ => ?_
    cases name <;> exact Succeeds.pure _

theorem printKeywords_succeeds (sparing : Bool) :
    (ks : List Keyword) → WritableForest (keywordTrees ks) → Succeeds (printKeywords sparing ks)
  | [], _ => by
    rw [printKeywords]
    exact Succeeds.pure []
  | k :: ks, writable => by
    simp only [keywordTrees, writableForest_cons] at writable
    rw [printKeywords]
    exact (k.print_succeeds sparing writable.1).bind fun _ _ =>
      (printKeywords_succeeds sparing ks writable.2).andThen

theorem Comprehension.print_succeeds (sparing : Bool) :
    (c : Comprehension) → WritableTree c.tree → Succeeds (c.print sparing)
  | ⟨target, iter, ifs, isAsync⟩, writable => by
    simp only [Comprehension.tree, writableTree_node, writableForest_cons] at writable
    rw [Comprehension.print]
    exact (target.printAt_succeeds sparing .tuple .other writable.2.1).bind fun _ _ =>
      (iter.printAt_succeeds sparing _ .other writable.2.2.1).bind fun _ _ =>
        (printAllAt_succeeds sparing _ ifs writable.2.2.2).andThen

theorem printGenerators_succeeds (sparing : Bool) :
    (gs : List Comprehension) → WritableForest (generatorTrees gs) → Succeeds (printGenerators sparing gs)
  | [], _ => by
    rw [printGenerators]
    exact Succeeds.pure ""
  | g :: gs, writable => by
    simp only [generatorTrees, writableForest_cons] at writable
    rw [printGenerators]
    exact (g.print_succeeds sparing writable.1).bind fun _ _ =>
      (printGenerators_succeeds sparing gs writable.2).andThen

theorem printSpec_succeeds :
    (spec : Option Expr) → WritableForest (optionTree .other spec) → Succeeds (printSpec spec)
  | none, _ => by
    rw [printSpec]
    exact Succeeds.pure none
  | some e, writable => by
    simp only [optionTree, writableForest_cons] at writable
    rw [printSpec]
    refine (printPart_succeeds e writable.1).bind fun part _ => ?_
    cases part <;> exact Succeeds.pure _

theorem printPart_succeeds : (e : Expr) → WritableTree (e.tree .other) → Succeeds (printPart e)
  | .formatted pos value conversion spec, writable => by
    simp only [Expr.tree, writableTree_node, writableForest_cons] at writable
    rw [printPart]
    refine (value.printAt_succeeds true _ .other writable.2.1).bind fun text written => ?_
    refine (withoutBackslash_succeeds fun present => writable.1 ⟨text, written, present⟩).bind fun _ _ => ?_
    exact (printSpec_succeeds spec writable.2.2).andThen
  | .joined pos values, writable => by
    simp only [Expr.tree, writableTree_node] at writable
    rw [printPart]
    exact (printParts_succeeds values writable.2).andThen
  | .constant pos value, _ => by
    cases value <;> exact ⟨_, rfl⟩
  | .boolOp .., _ | .named .., _ | .binOp .., _ | .unaryOp .., _ | .lambda .., _ | .ifExp .., _
  | .dict .., _ | .set .., _ | .listComp .., _ | .setComp .., _ | .dictComp .., _ | .generator .., _
  | .await .., _ | .yield .., _ | .yieldFrom .., _ | .compare .., _ | .call .., _
  | .attribute .., _ | .subscript .., _ | .starred .., _ | .name .., _ | .list .., _ | .tuple .., _
  | .slice .., _ => ⟨none, rfl⟩

theorem printParts_succeeds :
    (es : List Expr) → WritableForest (exprTrees es) → Succeeds (printParts es)
  | [], _ => by
    rw [printParts]
    exact Succeeds.pure []
  | e :: es, writable => by
    simp only [exprTrees, writableForest_cons] at writable
    rw [printParts]
    exact (printPart_succeeds e writable.1).bind fun _ _ => (printParts_succeeds es writable.2).andThen

end

theorem Expr.print_succeeds (e : Expr) (writable : WritableTree (e.tree .other)) : Succeeds e.print :=
  e.printAt_succeeds false .test .other writable

end TypingAudit.Ast
