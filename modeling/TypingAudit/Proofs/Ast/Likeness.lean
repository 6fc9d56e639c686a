import TypingAudit.Ast.Shape
import TypingAudit.Proofs.Ast.Relabelling

/-!
What it means that two expressions are written alike: they differ in their places only, so that they are the same
expression once everything stands at one place.
-/

namespace TypingAudit.Ast

open Source (Position)

def Relabelling.unplacing : Relabelling := ⟨fun _ => .start, id⟩

theorem Relabelling.unplacing_place (pos : Position) : Relabelling.unplacing.place pos = .start := rfl

def Expr.unplaced (e : Expr) : Expr := e.relabel .unplacing

mutual

theorem Expr.relabel_of_same : (e other : Expr) → e.same other = true →
    e.relabel .unplacing = other.relabel .unplacing
  | .boolOp pos op values, other, alike => by
    unfold Expr.same at alike
    split at alike
    case h_1 pos' op' values' =>
      simp only [Bool.and_eq_true, beq_iff_eq] at alike
      simp only [Expr.relabel, Relabelling.unplacing_place, alike.1, relabelAll_of_same values values' alike.2]
    case h_2 => cases alike
  | .named pos target value, other, alike => by
    unfold Expr.same at alike
    split at alike
    case h_1 pos' target' value' =>
      simp only [Bool.and_eq_true] at alike
      simp only [Expr.relabel, Relabelling.unplacing_place, target.relabel_of_same target' alike.1,
        value.relabel_of_same value' alike.2]
    case h_2 => cases alike
  | .binOp pos left op right, other, alike => by
    unfold Expr.same at alike
    split at alike
    case h_1 pos' left' op' right' =>
      simp only [Bool.and_eq_true, beq_iff_eq] at alike
      simp only [Expr.relabel, Relabelling.unplacing_place, left.relabel_of_same left' alike.1.1, alike.1.2,
        right.relabel_of_same right' alike.2]
    case h_2 => cases alike
  | .unaryOp pos op operand, other, alike => by
    unfold Expr.same at alike
    split at alike
    case h_1 pos' op' operand' =>
      simp only [Bool.and_eq_true, beq_iff_eq] at alike
      simp only [Expr.relabel, Relabelling.unplacing_place, alike.1, operand.relabel_of_same operand' alike.2]
    case h_2 => cases alike
  | .lambda pos params body, other, alike => by
    unfold Expr.same at alike
    split at alike
    case h_1 pos' params' body' =>
      simp only [Bool.and_eq_true] at alike
      simp only [Expr.relabel, Relabelling.unplacing_place, params.relabel_of_same params' alike.1,
        body.relabel_of_same body' alike.2]
    case h_2 => cases alike
  | .ifExp pos test body orelse, other, alike => by
    unfold Expr.same at alike
    split at alike
    case h_1 pos' test' body' orelse' =>
      simp only [Bool.and_eq_true] at alike
      simp only [Expr.relabel, Relabelling.unplacing_place, test.relabel_of_same test' alike.1.1,
        body.relabel_of_same body' alike.1.2,
        orelse.relabel_of_same orelse' alike.2]
    case h_2 => cases alike
  | .dict pos keys values, other, alike => by
    unfold Expr.same at alike
    split at alike
    case h_1 pos' keys' values' =>
      simp only [Bool.and_eq_true] at alike
      simp only [Expr.relabel, Relabelling.unplacing_place, relabelOptions_of_same keys keys' alike.1,
        relabelAll_of_same values values' alike.2]
    case h_2 => cases alike
  | .set pos elts, other, alike => by
    unfold Expr.same at alike
    split at alike
    case h_1 pos' elts' =>
      simp only [Expr.relabel, Relabelling.unplacing_place, relabelAll_of_same elts elts' alike]
    case h_2 => cases alike
  | .listComp pos elt generators, other, alike => by
    unfold Expr.same at alike
    split at alike
    case h_1 pos' elt' generators' =>
      simp only [Bool.and_eq_true] at alike
      simp only [Expr.relabel, Relabelling.unplacing_place, elt.relabel_of_same elt' alike.1,
        relabelGenerators_of_same generators generators' alike.2]
    case h_2 => cases alike
  | .setComp pos elt generators, other, alike => by
    unfold Expr.same at alike
    split at alike
    case h_1 pos' elt' generators' =>
      simp only [Bool.and_eq_true] at alike
      simp only [Expr.relabel, Relabelling.unplacing_place, elt.relabel_of_same elt' alike.1,
        relabelGenerators_of_same generators generators' alike.2]
    case h_2 => cases alike
  | .dictComp pos key value generators, other, alike => by
    unfold Expr.same at alike
    split at alike
    case h_1 pos' key' value' generators' =>
      simp only [Bool.and_eq_true] at alike
      simp only [Expr.relabel, Relabelling.unplacing_place, key.relabel_of_same key' alike.1.1,
        value.relabel_of_same value' alike.1.2,
        relabelGenerators_of_same generators generators' alike.2]
    case h_2 => cases alike
  | .generator pos elt generators, other, alike => by
    unfold Expr.same at alike
    split at alike
    case h_1 pos' elt' generators' =>
      simp only [Bool.and_eq_true] at alike
      simp only [Expr.relabel, Relabelling.unplacing_place, elt.relabel_of_same elt' alike.1,
        relabelGenerators_of_same generators generators' alike.2]
    case h_2 => cases alike
  | .await pos value, other, alike => by
    unfold Expr.same at alike
    split at alike
    case h_1 pos' value' =>
      simp only [Expr.relabel, Relabelling.unplacing_place, value.relabel_of_same value' alike]
    case h_2 => cases alike
  | .yield pos value, other, alike => by
    unfold Expr.same at alike
    split at alike
    case h_1 pos' value' =>
      simp only [Expr.relabel, Relabelling.unplacing_place, relabelOption_of_same value value' alike]
    case h_2 => cases alike
  | .yieldFrom pos value, other, alike => by
    unfold Expr.same at alike
    split at alike
    case h_1 pos' value' =>
      simp only [Expr.relabel, Relabelling.unplacing_place, value.relabel_of_same value' alike]
    case h_2 => cases alike
  | .compare pos left ops comparators, other, alike => by
    unfold Expr.same at alike
    split at alike
    case h_1 pos' left' ops' comparators' =>
      simp only [Bool.and_eq_true, beq_iff_eq] at alike
      simp only [Expr.relabel, Relabelling.unplacing_place, left.relabel_of_same left' alike.1.1, alike.1.2,
        relabelAll_of_same comparators comparators' alike.2]
    case h_2 => cases alike
  | .call pos func args keywords, other, alike => by
    unfold Expr.same at alike
    split at alike
    case h_1 pos' func' args' keywords' =>
      simp only [Bool.and_eq_true] at alike
      simp only [Expr.relabel, Relabelling.unplacing_place, func.relabel_of_same func' alike.1.1,
        relabelAll_of_same args args' alike.1.2,
        relabelKeywords_of_same keywords keywords' alike.2]
    case h_2 => cases alike
  | .formatted pos value conversion spec, other, alike => by
    unfold Expr.same at alike
    split at alike
    case h_1 pos' value' conversion' spec' =>
      simp only [Bool.and_eq_true, beq_iff_eq] at alike
      simp only [Expr.relabel, Relabelling.unplacing_place, value.relabel_of_same value' alike.1.1, alike.1.2,
        relabelOption_of_same spec spec' alike.2]
    case h_2 => cases alike
  | .joined pos values, other, alike => by
    unfold Expr.same at alike
    split at alike
    case h_1 pos' values' =>
      simp only [Expr.relabel, Relabelling.unplacing_place, relabelAll_of_same values values' alike]
    case h_2 => cases alike
  | .constant pos value, other, alike => by
    unfold Expr.same at alike
    split at alike
    case h_1 pos' value' =>
      simp only [beq_iff_eq] at alike
      simp only [Expr.relabel, Relabelling.unplacing_place, alike]
    case h_2 => cases alike
  | .attribute pos value attr usage, other, alike => by
    unfold Expr.same at alike
    split at alike
    case h_1 pos' value' attr' usage' =>
      simp only [Bool.and_eq_true, beq_iff_eq] at alike
      simp only [Expr.relabel, Relabelling.unplacing_place, value.relabel_of_same value' alike.1.1, alike.1.2, alike.2]
    case h_2 => cases alike
  | .subscript pos value index usage, other, alike => by
    unfold Expr.same at alike
    split at alike
    case h_1 pos' value' index' usage' =>
      simp only [Bool.and_eq_true, beq_iff_eq] at alike
      simp only [Expr.relabel, Relabelling.unplacing_place, value.relabel_of_same value' alike.1.1,
        index.relabel_of_same index' alike.1.2,
        alike.2]
    case h_2 => cases alike
  | .starred pos value usage, other, alike => by
    unfold Expr.same at alike
    split at alike
    case h_1 pos' value' usage' =>
      simp only [Bool.and_eq_true, beq_iff_eq] at alike
      simp only [Expr.relabel, Relabelling.unplacing_place, value.relabel_of_same value' alike.1, alike.2]
    case h_2 => cases alike
  | .name pos id usage, other, alike => by
    unfold Expr.same at alike
    split at alike
    case h_1 pos' id' usage' =>
      simp only [Bool.and_eq_true, beq_iff_eq] at alike
      simp only [Expr.relabel, Relabelling.unplacing_place, alike.1, alike.2]
    case h_2 => cases alike
  | .list pos elts usage, other, alike => by
    unfold Expr.same at alike
    split at alike
    case h_1 pos' elts' usage' =>
      simp only [Bool.and_eq_true, beq_iff_eq] at alike
      simp only [Expr.relabel, Relabelling.unplacing_place, relabelAll_of_same elts elts' alike.1, alike.2]
    case h_2 => cases alike
  | .tuple pos elts usage, other, alike => by
    unfold Expr.same at alike
    split at alike
    case h_1 pos' elts' usage' =>
      simp only [Bool.and_eq_true, beq_iff_eq] at alike
      simp only [Expr.relabel, Relabelling.unplacing_place, relabelAll_of_same elts elts' alike.1, alike.2]
    case h_2 => cases alike
  | .slice pos lower upper step, other, alike => by
    unfold Expr.same at alike
    split at alike
    case h_1 pos' lower' upper' step' =>
      simp only [Bool.and_eq_true] at alike
      simp only [Expr.relabel, Relabelling.unplacing_place, relabelOption_of_same lower lower' alike.1.1,
        relabelOption_of_same upper upper' alike.1.2,
        relabelOption_of_same step step' alike.2]
    case h_2 => cases alike
termination_by structural e => e

theorem relabelAll_of_same : (es others : List Expr) → sameAll es others = true →
    relabelAll .unplacing es = relabelAll .unplacing others
  | [], [], _ => rfl
  | e :: es, other :: others, alike => by
    rw [sameAll, Bool.and_eq_true] at alike
    rw [relabelAll, relabelAll, e.relabel_of_same other alike.1, relabelAll_of_same es others alike.2]
  | [], _ :: _, alike => by simp [sameAll] at alike
  | _ :: _, [], alike => by simp [sameAll] at alike
termination_by structural e => e

theorem relabelOption_of_same : (e other : Option Expr) → sameOption e other = true →
    relabelOption .unplacing e = relabelOption .unplacing other
  | none, none, _ => rfl
  | some e, some other, alike => by
    rw [sameOption] at alike
    rw [relabelOption, relabelOption, e.relabel_of_same other alike]
  | none, some _, alike => by simp [sameOption] at alike
  | some _, none, alike => by simp [sameOption] at alike
termination_by structural e => e

theorem relabelOptions_of_same : (es others : List (Option Expr)) → sameOptions es others = true →
    relabelOptions .unplacing es = relabelOptions .unplacing others
  | [], [], _ => rfl
  | e :: es, other :: others, alike => by
    rw [sameOptions, Bool.and_eq_true] at alike
    rw [relabelOptions, relabelOptions, relabelOption_of_same e other alike.1, relabelOptions_of_same es others alike.2]
  | [], _ :: _, alike => by simp [sameOptions] at alike
  | _ :: _, [], alike => by simp [sameOptions] at alike
termination_by structural e => e

theorem Param.relabel_of_same : (p other : Param) → p.same other = true →
    p.relabel .unplacing = other.relabel .unplacing
  | ⟨pos, name, typeHint⟩, ⟨pos', name', typeHint'⟩, alike => by
    rw [Param.same, Bool.and_eq_true, beq_iff_eq] at alike
    rw [Param.relabel, Param.relabel, alike.1, relabelOption_of_same typeHint typeHint' alike.2]
    rfl
termination_by structural e => e

theorem relabelParams_of_same : (ps others : List Param) → sameParams ps others = true →
    relabelParams .unplacing ps = relabelParams .unplacing others
  | [], [], _ => rfl
  | p :: ps, other :: others, alike => by
    rw [sameParams, Bool.and_eq_true] at alike
    rw [relabelParams, relabelParams, p.relabel_of_same other alike.1, relabelParams_of_same ps others alike.2]
  | [], _ :: _, alike => by simp [sameParams] at alike
  | _ :: _, [], alike => by simp [sameParams] at alike
termination_by structural e => e

theorem relabelParam?_of_same : (p other : Option Param) → sameParam? p other = true →
    relabelParam? .unplacing p = relabelParam? .unplacing other
  | none, none, _ => rfl
  | some p, some other, alike => by
    rw [sameParam?] at alike
    rw [relabelParam?, relabelParam?, p.relabel_of_same other alike]
  | none, some _, alike => by simp [sameParam?] at alike
  | some _, none, alike => by simp [sameParam?] at alike
termination_by structural e => e

theorem Params.relabel_of_same : (ps others : Params) → ps.same others = true →
    ps.relabel .unplacing = others.relabel .unplacing
  | ⟨posOnly, regular, varArg, kwOnly, kwDefaults, kwArg, defaults⟩,
    ⟨posOnly', regular', varArg', kwOnly', kwDefaults', kwArg', defaults'⟩, alike => by
    simp only [Params.same, Bool.and_eq_true] at alike
    obtain ⟨⟨⟨⟨⟨⟨samePosOnly, sameRegular⟩, sameVarArg⟩, sameKwOnly⟩, sameKwDefaults⟩, sameKwArg⟩, sameDefaults⟩ :=
      alike
    rw [Params.relabel, Params.relabel, relabelParams_of_same posOnly posOnly' samePosOnly,
      relabelParams_of_same regular regular' sameRegular, relabelParam?_of_same varArg varArg' sameVarArg,
      relabelParams_of_same kwOnly kwOnly' sameKwOnly, relabelOptions_of_same kwDefaults kwDefaults' sameKwDefaults,
      relabelParam?_of_same kwArg kwArg' sameKwArg, relabelAll_of_same defaults defaults' sameDefaults]
termination_by structural e => e

theorem Keyword.relabel_of_same : (k other : Keyword) → k.same other = true →
    k.relabel .unplacing = other.relabel .unplacing
  | ⟨pos, name, value⟩, ⟨pos', name', value'⟩, alike => by
    rw [Keyword.same, Bool.and_eq_true, beq_iff_eq] at alike
    rw [Keyword.relabel, Keyword.relabel, alike.1, value.relabel_of_same value' alike.2]
    rfl
termination_by structural e => e

theorem relabelKeywords_of_same : (ks others : List Keyword) → sameKeywords ks others = true →
    relabelKeywords .unplacing ks = relabelKeywords .unplacing others
  | [], [], _ => rfl
  | k :: ks, other :: others, alike => by
    rw [sameKeywords, Bool.and_eq_true] at alike
    rw [relabelKeywords, relabelKeywords, k.relabel_of_same other alike.1, relabelKeywords_of_same ks others alike.2]
  | [], _ :: _, alike => by simp [sameKeywords] at alike
  | _ :: _, [], alike => by simp [sameKeywords] at alike
termination_by structural e => e

theorem Comprehension.relabel_of_same : (c other : Comprehension) → c.same other = true →
    c.relabel .unplacing = other.relabel .unplacing
  | ⟨target, iter, ifs, isAsync⟩, ⟨target', iter', ifs', isAsync'⟩, alike => by
    simp only [Comprehension.same, Bool.and_eq_true, beq_iff_eq] at alike
    rw [Comprehension.relabel, Comprehension.relabel, target.relabel_of_same target' alike.1.1.1,
      iter.relabel_of_same iter' alike.1.1.2, relabelAll_of_same ifs ifs' alike.1.2, alike.2]
termination_by structural e => e

theorem relabelGenerators_of_same : (gs others : List Comprehension) → sameGenerators gs others = true →
    relabelGenerators .unplacing gs = relabelGenerators .unplacing others
  | [], [], _ => rfl
  | g :: gs, other :: others, alike => by
    rw [sameGenerators, Bool.and_eq_true] at alike
    rw [relabelGenerators, relabelGenerators, g.relabel_of_same other alike.1,
      relabelGenerators_of_same gs others alike.2]
  | [], _ :: _, alike => by simp [sameGenerators] at alike
  | _ :: _, [], alike => by simp [sameGenerators] at alike
termination_by structural e => e

end

/-- Expressions that are written alike are the same apart from their places. -/
theorem Expr.unplaced_of_same {e other : Expr} (alike : e.same other = true) : e.unplaced = other.unplaced :=
  e.relabel_of_same other alike

end TypingAudit.Ast
