import TypingAudit.Proofs.Source.NameTokens
import TypingAudit.Proofs.Source.Readers
import TypingAudit.Source.Grammar

/-!
The names in expressions that are read. Where no name among the tokens has a quote in it, an expression that is a name
has none in it either. The rules for nested constructs are taken to be sound, and one more level of nesting keeps them
so.
-/

namespace TypingAudit.Source.Grammar

open Ast

/-- If the expression is a name, there is no quote in it. -/
def SoundExpr : Expr → Prop
  | .name _ id _ => '\'' ∉ id.toList
  | _ => True

theorem sound_name : Yields SoundToken (fun text => '\'' ∉ text.toList) name := by
  refine Yields.name.mono ?_
  rintro text ⟨pos, sound⟩
  exact sound text rfl

section Targets

variable {usage : Usage} {e target : Expr}

theorem SoundExpr.toTarget (sound : SoundExpr e) (found : toTarget usage e = some target) : SoundExpr target := by
  unfold Grammar.toTarget at found
  split at found
  · cases found
    exact sound
  · cases found
    trivial
  · cases found
    trivial
  · obtain ⟨elts, -, rfl⟩ := Option.map_eq_some_iff.1 found
    trivial
  · obtain ⟨elts, -, rfl⟩ := Option.map_eq_some_iff.1 found
    trivial
  · split at found
    · cases found
    · obtain ⟨value, -, rfl⟩ := Option.map_eq_some_iff.1 found
      trivial
  · cases found

theorem SoundExpr.toSingleTarget (sound : SoundExpr e) (found : toSingleTarget e = some target) :
    SoundExpr target := by
  unfold Grammar.toSingleTarget at found
  split at found <;> cases found
  · exact sound
  · trivial
  · trivial

end Targets

section Strings

variable {inner : Rules} {placing : Placing} {parts : List Part} {e : Expr}

theorem mem_mergeParts {mid last : Text.CodePoints → Expr} {pending : Text.CodePoints}
    (listed : e ∈ mergeParts mid last pending parts) :
    (∃ text, e = mid text) ∨ (∃ text, e = last text) ∨ Part.value e ∈ parts := by
  induction parts generalizing pending with
  | nil =>
    rw [mergeParts] at listed
    split at listed
    · cases listed
    · exact .inr (.inl ⟨pending, List.mem_singleton.1 listed⟩)
  | cons part parts ih =>
    have later : ∀ {pending}, e ∈ mergeParts mid last pending parts →
        (∃ text, e = mid text) ∨ (∃ text, e = last text) ∨ Part.value e ∈ part :: parts :=
      fun among => (ih among).imp_right (Or.imp_right (List.mem_cons_of_mem _))
    cases part with
    | text t => exact later listed
    | value value =>
      rw [mergeParts] at listed
      split at listed
      · rcases List.mem_cons.1 listed with rfl | among
        · exact .inr (.inr List.mem_cons_self)
        · exact later among
      · rcases List.mem_cons.1 listed with same | among
        · exact .inl ⟨pending, same⟩
        · rcases List.mem_cons.1 among with rfl | among
          · exact .inr (.inr List.mem_cons_self)
          · exact later among

theorem soundExpr_of_mem_pieceParts {piece : Piece} (found : pieceParts inner placing piece = some parts)
    (listed : Part.value e ∈ parts) : SoundExpr e := by
  cases piece with
  | literal text =>
    rw [pieceParts] at found
    cases found
    cases List.mem_singleton.1 listed
  | field expression bracePos echo conversion format =>
    rw [pieceParts] at found
    obtain ⟨value, -, found⟩ := Option.bind_eq_some_iff.1 found
    obtain ⟨spec, -, found⟩ := Option.bind_eq_some_iff.1 found
    have same : e = .formatted placing.first value conversion spec := by
      cases echo <;> cases found <;> simpa using listed
    rw [same]
    trivial

theorem soundExpr_of_mem_piecesParts {pieces : List Piece} (found : piecesParts inner placing pieces = some parts)
    (listed : Part.value e ∈ parts) : SoundExpr e := by
  induction pieces generalizing parts with
  | nil =>
    rw [piecesParts] at found
    cases found
    cases listed
  | cons piece pieces ih =>
    rw [piecesParts] at found
    obtain ⟨front, first, found⟩ := Option.bind_eq_some_iff.1 found
    obtain ⟨later, rest, found⟩ := Option.bind_eq_some_iff.1 found
    cases found
    rcases List.mem_append.1 listed with among | among
    · exact soundExpr_of_mem_pieceParts first among
    · exact ih rest among

theorem soundExpr_of_mem_literalParts {literal : StringLiteral}
    (found : literalParts inner placing literal = some parts) (listed : Part.value e ∈ parts) : SoundExpr e := by
  unfold literalParts at found
  split at found
  · cases found
  · split at found
    · obtain ⟨pieces, -, found⟩ := Option.bind_eq_some_iff.1 found
      exact soundExpr_of_mem_piecesParts found listed
    · obtain ⟨text, -, found⟩ := Option.bind_eq_some_iff.1 found
      cases found
      cases List.mem_singleton.1 listed

theorem exists_of_mem_mapM {α β : Type} {f : α → Option β} {items : List α} {found : List β} {b : β}
    (all : items.mapM f = some found) (listed : b ∈ found) : ∃ a, f a = some b := by
  induction items generalizing found with
  | nil =>
    cases all
    cases listed
  | cons a items ih =>
    rw [List.mapM_cons] at all
    obtain ⟨first, here, all⟩ := Option.bind_eq_some_iff.1 all
    obtain ⟨later, rest, all⟩ := Option.bind_eq_some_iff.1 all
    cases all
    rcases List.mem_cons.1 listed with rfl | among
    · exact ⟨a, here⟩
    · exact ih rest among

theorem soundExpr_of_joinLiterals {first : Position} {literals : List (Position × StringLiteral)}
    (found : joinLiterals inner first literals = some e) : SoundExpr e := by
  obtain ⟨head, -, found⟩ := Option.bind_eq_some_iff.1 found
  split at found
  · obtain ⟨data, -, found⟩ := Option.bind_eq_some_iff.1 found
    cases found
    trivial
  · obtain ⟨parts, read, found⟩ := Option.bind_eq_some_iff.1 found
    dsimp only at found
    split at found
    · cases found
      trivial
    · split at found <;> cases found
      · rename_i merged
        rcases mem_mergeParts (merged ▸ List.mem_singleton_self e) with ⟨text, rfl⟩ | ⟨text, rfl⟩ | listed
        · trivial
        · trivial
        · obtain ⟨front, among, listed⟩ := List.mem_flatten.1 listed
          obtain ⟨literal, found⟩ := exists_of_mem_mapM read among
          exact soundExpr_of_mem_literalParts found listed
      · trivial

theorem sound_strings : Yields SoundToken SoundExpr (strings inner) := by
  have token : Yields SoundToken (fun _ => True) stringToken := by
    intro tokens a rest held read
    unfold stringToken at read
    split at read <;> cases read
    exact ⟨trivial, fun t later => held t (List.mem_cons_of_mem _ later)⟩
  refine .andThen .here fun first => .andThen (.many1 token) fun literals => ?_
  split
  next e found => exact .pure (soundExpr_of_joinLiterals found)
  next => exact .failure

end Strings

/-- The rules for nested constructs read expressions of which those that are names have no quote in them. -/
structure Rules.Sound (rules : Rules) : Prop where
  expression : Yields SoundToken SoundExpr rules.expression
  named : Yields SoundToken SoundExpr rules.named
  starExpressions : Yields SoundToken SoundExpr rules.starExpressions
  disjunction : Yields SoundToken SoundExpr rules.disjunction
  inversion : Yields SoundToken SoundExpr rules.inversion
  bitwiseOr : Yields SoundToken SoundExpr rules.bitwiseOr
  factor : Yields SoundToken SoundExpr rules.factor
  primary : Yields SoundToken SoundExpr rules.primary
  pattern : Yields SoundToken (fun _ => True) rules.pattern

section Params

variable {inner : Rules} (rules : inner.Sound) {style : ParamStyle}
include rules

theorem sound_typeHint : Yields SoundToken (fun _ => True) (typeHint inner style) := by
  refine .ite ?_ (.pure trivial)
  exact .andThen .eat fun _ => .ite (.mapped rules.expression) (.pure trivial)

theorem sound_starHint : Yields SoundToken (fun _ => True) ( starAnnotation inner style) := by
  refine .ite (.andThen .eat fun _ => .ite ?_ (.pure trivial)) (.pure trivial)
  refine .andThen .here fun _ => .andThen .eat fun _ => .ite ?_ ?_
  · exact .andThen rules.bitwiseOr fun _ => .pure trivial
  · exact .mapped rules.expression

omit rules in
theorem sound_paramEnd : Yields SoundToken (fun _ => True) (paramEnd style) :=
  .andThen .eat fun _ => .ite .done (.andThen .nextIs fun _ => .ite .done .failure)

omit rules in
theorem sound_nameAhead : Yields SoundToken (fun _ => True) nameAhead :=
  .andThen .nextIs fun _ => .ite .done .failure

theorem sound_paramEntry (s : ParamsSoFar) : Yields SoundToken (fun _ => True) (paramEntry inner style s) := by
  unfold paramEntry
  dsimp only
  refine .ite .failed (.andThen .eat fun slash => .ite ?_ (.andThen .eat fun stars => .ite ?_ (.andThen .eat
    fun star => .ite ?_ ?_)))
  · exact .andThen (.orFail fun _ _ => trivial) fun _ => .andThen sound_paramEnd fun _ => .pure trivial
  · exact .andThen .here fun _ => .andThen .name fun _ => .andThen (sound_typeHint rules) fun _ =>
      .andThen sound_paramEnd fun _ => .pure trivial
  · refine .ite .failed (.andThen .eat fun bare => .ite ?_ ?_)
    · exact .andThen sound_nameAhead fun _ => .pure trivial
    · exact .andThen .here fun _ => .andThen .name fun _ => .andThen (sound_starHint rules) fun _ =>
        .andThen sound_paramEnd fun _ => .pure trivial
  · refine .andThen .here fun _ => .andThen .name fun _ => .andThen (sound_typeHint rules) fun _ =>
      .andThen .eat fun given => .ite ?_ ?_
    · exact .andThen (.mapped rules.expression) fun _ => .andThen sound_paramEnd fun _ =>
        .orFail fun _ _ => trivial
    · exact .andThen .done fun _ => .andThen sound_paramEnd fun _ => .orFail fun _ _ => trivial

theorem sound_params : Yields SoundToken (fun _ => True) (params inner style) :=
  .andThen (.extendWhile (fun s _ => sound_paramEntry rules s) _ trivial) fun _ => .pure trivial

end Params

section Atoms

variable {inner : Rules}

theorem sound_moreElements {α : Type} {kind : α → Prop} {p : Parser α} (each : Yields SoundToken kind p)
    {closing : String} {limit : Nat} :
    Yields SoundToken (fun found => ∀ a ∈ found, kind a) (moreElements p closing limit) :=
  .bind (.many (.andThen .require fun _ => each) limit) fun _ later => .andThen .eat fun _ =>
    .andThen .require fun _ => .pure later

theorem sound_nextIsBinding : Yields SoundToken (fun _ => True) nextIsBinding := by
  intro tokens a rest held read
  unfold nextIsBinding at read
  split at read <;> cases read <;> exact ⟨trivial, held⟩

theorem sound_nextIsKeywordArgument : Yields SoundToken (fun _ => True) nextIsKeywordArgument := by
  intro tokens a rest held read
  unfold nextIsKeywordArgument at read
  split at read <;> cases read <;> exact ⟨trivial, held⟩

variable (rules : inner.Sound)
include rules

theorem sound_element : Yields SoundToken SoundExpr (element inner) :=
  .andThen .here fun _ => .andThen .eat fun _ => .ite (.andThen rules.bitwiseOr fun _ => .pure trivial) rules.named

theorem sound_loopTarget : Yields SoundToken SoundExpr (loopTarget inner) := by
  refine .andThen .here fun _ => .andThen .eat fun _ => .ite ?_ ?_
  · refine .andThen rules.primary fun value => .orFail fun target found => ?_
    exact SoundExpr.toTarget (e := .starred _ value .load) trivial found
  · exact .bind rules.primary fun value sound => .orFail fun target found => sound.toTarget found

theorem sound_loopTargets : Yields SoundToken SoundExpr (loopTargets inner) := by
  refine .andThen .here fun _ => .bind (sound_loopTarget rules) fun first sound => ?_
  refine .andThen (.many (.andThen .require fun _ => sound_loopTarget rules) _) fun later => ?_
  exact .andThen .eat fun comma => .ite (.pure sound) (.pure trivial)

theorem sound_comprehensions : Yields SoundToken (fun _ => True) (comprehensions inner) := by
  have one : Yields SoundToken (fun _ => True) (comprehension inner) := by
    refine .andThen .eat fun _ => .andThen .require fun _ => .andThen (sound_loopTargets rules) fun _ => ?_
    refine .andThen .require fun _ => .andThen rules.disjunction fun _ => ?_
    exact .andThen (.many (.andThen .require fun _ => rules.disjunction) _) fun _ => .pure trivial
  exact (Yields.many1 one).passes

theorem sound_yieldExpr : Yields SoundToken SoundExpr (yieldExpr inner) := by
  refine .andThen .here fun _ => .andThen .require fun _ => .andThen .eat fun _ => .ite ?_ ?_
  · exact .andThen rules.expression fun _ => .pure trivial
  · exact .andThen (.optional rules.starExpressions) fun _ => .pure trivial

theorem sound_parenthesized (pos : Position) : Yields SoundToken SoundExpr (parenthesized inner pos) := by
  refine .andThen .eat fun _ => .ite (.pure trivial) (.andThen .nextIs fun _ => .ite ?_ ?_)
  · exact .bind (sound_yieldExpr rules) fun value sound => .andThen .require fun _ => .pure sound
  · refine .bind (sound_element rules) fun first sound => .andThen .nextIs fun _ => .ite ?_ (.ite .failure ?_)
    · exact .andThen (sound_moreElements (sound_element rules)) fun _ => .pure trivial
    · refine .andThen .nextIs fun _ => .ite ?_ ?_
      · exact .andThen (sound_comprehensions rules) fun _ => .andThen .require fun _ => .pure trivial
      · exact .andThen .require fun _ => .pure sound

theorem sound_bracketed (pos : Position) : Yields SoundToken SoundExpr (bracketed inner pos) := by
  refine .andThen .eat fun _ => .ite (.pure trivial) (.andThen (sound_element rules) fun first => ?_)
  refine .andThen .nextIs fun _ => .ite (.ite .failed ?_) ?_
  · exact .andThen (sound_comprehensions rules) fun _ => .andThen .require fun _ => .pure trivial
  · exact .andThen (sound_moreElements (sound_element rules)) fun _ => .pure trivial

theorem sound_dictEntry : Yields SoundToken (fun _ => True) (dictEntry inner) := by
  refine .andThen .eat fun _ => .ite (.andThen rules.bitwiseOr fun _ => .pure trivial) ?_
  exact .andThen rules.expression fun _ => .andThen .require fun _ => .andThen rules.expression fun _ => .pure trivial

theorem sound_braced (pos : Position) : Yields SoundToken SoundExpr (braced inner pos) := by
  unfold braced
  dsimp only
  refine .andThen .eat fun _ => .ite (.pure trivial) (.andThen .nextIs fun _ => .ite ?_ ?_)
  · exact .andThen (sound_dictEntry rules) fun _ => .andThen (sound_moreElements (sound_dictEntry rules)) fun _ =>
      .pure trivial
  · refine .andThen sound_nextIsBinding fun binding => .andThen (sound_element rules) fun first => ?_
    refine .andThen .nextIs fun _ => .ite (.ite .failed ?_) (.andThen .nextIs fun _ => .ite (.ite .failed ?_) ?_)
    · refine .andThen .require fun _ => .andThen rules.expression fun _ => .andThen .nextIs fun _ => .ite ?_ ?_
      · exact .andThen (sound_comprehensions rules) fun _ => .andThen .require fun _ => .pure trivial
      · exact .andThen (sound_moreElements (sound_dictEntry rules)) fun _ => .pure trivial
    · exact .andThen (sound_comprehensions rules) fun _ => .andThen .require fun _ => .pure trivial
    · exact .andThen (sound_moreElements (sound_element rules)) fun _ => .pure trivial

theorem sound_atom : Yields SoundToken SoundExpr (atom inner) := by
  refine .andThen .here fun pos => .bind .peek fun next sound => ?_
  split
  · exact sound_strings
  next id =>
    obtain ⟨_, named⟩ := sound _ rfl
    exact .andThen .skip fun _ => .pure (named id rfl)
  · exact .andThen .skip fun _ => .pure trivial
  · refine .andThen .skip fun _ => ?_
    split
    · exact .pure trivial
    · exact .pure trivial
    · exact .pure trivial
    · exact .failure
  · refine .andThen .skip fun _ => ?_
    split
    · exact sound_parenthesized rules pos
    · exact sound_bracketed rules pos
    · exact sound_braced rules pos
    · exact .pure trivial
    · exact .failure
  · exact .failure

end Atoms

section Trailers

variable {inner : Rules} (rules : inner.Sound)
include rules

theorem sound_argEntry (s : ArgsSoFar) : Yields SoundToken (fun _ => True) (argEntry inner s) := by
  unfold argEntry
  dsimp only
  refine .andThen .here fun pos => .andThen .eat fun _ => .ite ?_ (.andThen .eat fun _ => .ite (.ite .failed ?_)
    (.andThen sound_nextIsKeywordArgument fun _ => .ite ?_ (.ite .failed ?_)))
  · exact .andThen rules.expression fun _ => .done
  · exact .andThen rules.expression fun _ => .done
  · exact .andThen .name fun _ => .andThen .require fun _ => .andThen rules.expression fun _ => .done
  · exact .andThen rules.named fun _ => .andThen .nextIs fun _ => .ite .failed .done

theorem sound_arguments (generatorPos : Option Position) :
    Yields SoundToken (fun _ => True) (arguments inner generatorPos) := by
  refine .andThen .eat fun _ => .ite .done (.andThen (sound_argEntry rules _) fun first => ?_)
  refine .andThen .nextIs fun _ => .ite ?_ ?_
  · refine .andThen (.orFail fun _ _ => trivial) fun _ => .andThen (.orFail fun _ _ => trivial) fun _ => ?_
    exact .andThen (sound_comprehensions rules) fun _ => .andThen .require fun _ => .done
  · refine .andThen (.extendWhile (fun s _ => .andThen .require fun _ => sound_argEntry rules s) _ trivial) fun s => ?_
    exact .andThen .eat fun _ => .andThen .require fun _ => .done

theorem sound_sliceOrIndex : Yields SoundToken SoundExpr (sliceOrIndex inner) := by
  have bound := Yields.optional rules.expression
  refine .andThen .here fun _ => .andThen .nextIs fun _ => .ite ?_ (.andThen sound_nextIsBinding fun _ =>
    .ite rules.named (.bind rules.named fun value sound => .andThen .nextIs fun _ => .ite ?_ (.pure sound)))
  all_goals
    refine .andThen .require fun _ => .andThen bound fun _ => .andThen .eat fun _ => .ite ?_ ?_
    · exact .andThen bound fun _ => .pure trivial
    · exact .andThen .done fun _ => .pure trivial

theorem sound_subscriptParts : Yields SoundToken SoundExpr (subscriptParts inner) := by
  have part : Yields SoundToken SoundExpr (subscriptPart inner) :=
    .andThen .here fun _ => .andThen .eat fun _ => .ite (.andThen rules.expression fun _ => .pure trivial)
      (sound_sliceOrIndex rules)
  refine .andThen .here fun _ => .bind part fun first sound => ?_
  refine .andThen (.many (.andThen .require fun _ => part) _) fun later => ?_
  exact .andThen .eat fun comma => .ite (.pure sound) (.pure trivial)

theorem sound_trailer (pos : Position) (value : Expr) : Yields SoundToken SoundExpr (trailer inner pos value) := by
  refine .andThen .peek fun next => ?_
  split
  · exact .andThen .skip fun _ => .andThen .name fun _ => .pure trivial
  · refine .andThen .here fun _ => .andThen .skip fun _ => .andThen (sound_arguments rules _) ?_
    rintro ⟨args, keywords⟩
    exact .pure trivial
  · refine .andThen .skip fun _ => .andThen (sound_subscriptParts rules) fun _ => ?_
    exact .andThen .require fun _ => .pure trivial
  · exact .failure

theorem sound_primary : Yields SoundToken SoundExpr (primary inner) :=
  .andThen .here fun pos => .bind (sound_atom rules) fun _ sound =>
    .extendWhile (fun value _ => sound_trailer rules pos value) _ sound

end Trailers

section Operators

variable {inner : Rules} (rules : inner.Sound)
include rules

theorem sound_factor : Yields SoundToken SoundExpr (factor inner) := by
  have awaited : Yields SoundToken SoundExpr (awaited inner) :=
    .andThen .here fun _ => .andThen .eat fun _ => .ite (.andThen (sound_primary rules) fun _ => .pure trivial)
      (sound_primary rules)
  have power : Yields SoundToken SoundExpr (power inner) :=
    .andThen .here fun _ => .bind awaited fun _ sound => .andThen .eat fun _ =>
      .ite (.andThen rules.factor fun _ => .pure trivial) (.pure sound)
  refine .andThen .here fun _ => .andThen .peek fun next => ?_
  split
  · exact .andThen .skip fun _ => .andThen rules.factor fun _ => .pure trivial
  · exact power

omit rules in
theorem sound_leftGrouped {operator? : String → Option BinOp} {operand : Parser Expr}
    (each : Yields SoundToken SoundExpr operand) :
    Yields SoundToken SoundExpr (leftGrouped inner operator? operand) := by
  refine .andThen .here fun pos => .bind each fun first sound => .extendWhile (fun left _ => ?_) _ sound
  refine .andThen .peek fun next => ?_
  split
  · split
    · exact .andThen .skip fun _ => .andThen each fun _ => .pure trivial
    · exact .failure
  · exact .failure

theorem sound_bitwiseOr : Yields SoundToken SoundExpr (bitwiseOr inner) :=
  sound_leftGrouped (sound_leftGrouped (sound_leftGrouped (sound_leftGrouped (sound_leftGrouped (sound_leftGrouped
    (sound_factor rules))))))

omit rules in
theorem sound_comparisonOp : Yields SoundToken (fun _ => True) comparisonOp := by
  refine .andThen .peek fun first => .andThen .skip fun _ => ?_
  split
  case h_8 => exact .andThen .require fun _ => .done
  case h_9 => exact .andThen .eat fun _ => .ite .done .done
  case h_10 => exact .failure
  all_goals exact .done

theorem sound_inversion : Yields SoundToken SoundExpr (inversion inner) := by
  refine .andThen .here fun _ => .andThen .eat fun _ => .ite (.andThen rules.inversion fun _ => .pure trivial) ?_
  refine .andThen .here fun _ => .bind (sound_bitwiseOr rules) fun left sound => ?_
  refine .andThen (.many (.andThen sound_comparisonOp fun _ => .andThen (sound_bitwiseOr rules) fun _ => .done) _)
    fun links => ?_
  exact .ite (.pure sound) (.pure trivial)

omit rules in
theorem sound_joined {word : String} {operator : BoolOp} {operand : Parser Expr}
    (each : Yields SoundToken SoundExpr operand) :
    Yields SoundToken SoundExpr (joined inner word operator operand) := by
  refine .andThen .here fun _ => .bind each fun first sound => ?_
  refine .andThen (.many (.andThen .require fun _ => each) _) fun later => ?_
  exact .ite (.pure sound) (.pure trivial)

theorem sound_disjunction : Yields SoundToken SoundExpr (disjunction inner) :=
  sound_joined (sound_joined (sound_inversion rules))

theorem sound_expression : Yields SoundToken SoundExpr (expression inner) := by
  refine .andThen .here fun _ => .andThen .nextIs fun _ => .ite ?_ ?_
  · refine .andThen .here fun _ => .andThen .require fun _ => .andThen (sound_params rules) fun _ => ?_
    exact .andThen .require fun _ => .andThen rules.expression fun _ => .pure trivial
  · refine .bind (sound_disjunction rules) fun body sound => .andThen .eat fun _ => .ite ?_ (.pure sound)
    refine .andThen (sound_disjunction rules) fun _ => .andThen .require fun _ => ?_
    exact .andThen rules.expression fun _ => .pure trivial

theorem sound_namedExpression : Yields SoundToken SoundExpr (namedExpression inner) := by
  unfold namedExpression
  dsimp only
  refine .andThen .here fun _ => .andThen sound_nextIsBinding fun _ => .ite ?_ ?_
  · exact .andThen .name fun _ => .andThen .require fun _ => .andThen rules.expression fun _ => .pure trivial
  · exact .bind (sound_expression rules) fun value sound => .andThen .nextIs fun _ => .ite .failed (.pure sound)

omit rules in
theorem sound_tupleOf {item : Parser Expr} (each : Yields SoundToken SoundExpr item) :
    Yields SoundToken SoundExpr (tupleOf inner item) := by
  refine .andThen .here fun _ => .bind each fun first sound => ?_
  refine .andThen (.many (.andThen .require fun _ => each) _) fun later => ?_
  exact .andThen .eat fun comma => .ite (.pure sound) (.pure trivial)

theorem sound_starExpressions : Yields SoundToken SoundExpr (starExpressions inner) :=
  sound_tupleOf (.andThen .here fun _ => .andThen .eat fun _ =>
    .ite (.andThen (sound_bitwiseOr rules) fun _ => .pure trivial) (sound_expression rules))

end Operators

section Patterns

theorem sound_signedNumber : Yields SoundToken (fun _ => True) signedNumber := by
  have number : Yields SoundToken (fun _ => True) numberConstant := by
    intro tokens a rest held read
    unfold numberConstant at read
    split at read <;> cases read
    exact ⟨trivial, fun t later => held t (List.mem_cons_of_mem _ later)⟩
  refine .andThen .here fun _ => .andThen .eat fun _ => .andThen .here fun _ => .andThen number fun value => ?_
  refine .andThen .eat fun _ => .ite ?_ (.andThen .eat fun _ => .ite ?_ .done)
  all_goals exact .andThen .here fun _ => .andThen number fun right => .ite .failed .done

theorem sound_notContinued : Yields SoundToken (fun _ => True) notContinued :=
  .andThen .nextIs fun _ => .ite .failed .done

theorem sound_captureName : Yields SoundToken (fun _ => True) captureName :=
  .andThen .name fun _ => .ite .failed (.andThen sound_notContinued fun _ => .done)

theorem sound_mappingRest : Yields SoundToken (fun _ => True) mappingRest := by
  refine .andThen .eat fun _ => .ite ?_ (.andThen .require fun _ => .done)
  exact .andThen sound_captureName fun _ => .andThen .eat fun _ => .andThen .require fun _ => .done

variable {inner : Rules}

theorem sound_dottedRest (pos : Position) (value : Expr) :
    Yields SoundToken (fun _ => True) (dottedRest inner pos value) :=
  .extendWhile (fun _ _ => .andThen .require fun _ => .andThen .name fun _ => .done) _ trivial

theorem sound_mappingKey : Yields SoundToken (fun _ => True) (mappingKey inner) := by
  refine .andThen .here fun pos => .andThen .peek fun next => ?_
  split
  · exact sound_signedNumber
  · exact sound_signedNumber
  · exact sound_strings.passes
  · exact .andThen .skip fun _ => .andThen (.orFail fun _ _ => trivial) fun _ => .done
  · exact .andThen .skip fun _ => .andThen .nextIs fun _ => .ite (sound_dottedRest pos _) .failure
  · exact .failure

variable (rules : inner.Sound)
include rules

theorem sound_starPattern : Yields SoundToken (fun _ => True) (starPattern inner) := by
  have target : Yields SoundToken (fun _ => True) starTarget :=
    .andThen .name fun _ => .ite .done (.andThen sound_notContinued fun _ => .done)
  exact .andThen .here fun _ => .andThen .eat fun _ => .ite (.andThen target fun _ => .done) rules.pattern

theorem sound_parenthesizedPattern (pos : Position) :
    Yields SoundToken (fun _ => True) (parenthesizedPattern inner pos) := by
  refine .andThen .eat fun _ => .ite .done (.andThen (sound_starPattern rules) fun first => ?_)
  refine .andThen .nextIs fun _ => .ite (.andThen (sound_moreElements (sound_starPattern rules)) fun _ => .done) ?_
  refine .andThen .require fun _ => ?_
  split
  · exact .failure
  · exact .done

theorem sound_mappingPattern (pos : Position) : Yields SoundToken (fun _ => True) (mappingPattern inner pos) := by
  have key : Yields SoundToken (fun _ => True) (keyPattern inner) :=
    .andThen sound_mappingKey fun _ => .andThen .require fun _ => .andThen rules.pattern fun _ => .done
  refine .andThen (.optional key) fun found => ?_
  dsimp only
  split
  · exact .andThen .done fun _ => .andThen sound_mappingRest fun _ => .done
  · refine .andThen (.many (.andThen .require fun _ => key) _) fun _ => .andThen .nextIs fun _ => .ite ?_
      (.andThen .require fun _ => ?_)
    all_goals exact .andThen .done fun _ => .andThen sound_mappingRest fun _ => .done

theorem sound_classPattern (pos : Position) (cls : Expr) :
    Yields SoundToken (fun _ => True) (classPattern inner pos cls) := by
  have argument : Yields SoundToken (fun _ => True) (classArgument inner) := by
    refine .andThen sound_nextIsKeywordArgument fun _ => .ite ?_ (.andThen rules.pattern fun _ => .done)
    exact .andThen .name fun _ => .andThen .require fun _ => .andThen rules.pattern fun _ => .done
  refine .andThen .require fun _ => .andThen .eat fun _ => .ite (.andThen .done fun _ => .ite .failed .done) ?_
  exact .andThen argument fun _ => .andThen (sound_moreElements argument) fun _ => .andThen .done fun _ =>
    .ite .failed .done

theorem sound_namePattern (pos : Position) (id : String) :
    Yields SoundToken (fun _ => True) (namePattern inner pos id) := by
  refine .ite .done (.andThen (sound_dottedRest pos _) fun value => .andThen .nextIs fun _ => .ite ?_ ?_)
  · exact sound_classPattern rules pos value
  · refine .andThen sound_notContinued fun _ => ?_
    split
    · exact .done
    · exact .done

theorem sound_closedPattern : Yields SoundToken (fun _ => True) (closedPattern inner) := by
  refine .andThen .here fun pos => .andThen .peek fun next => ?_
  split
  · exact .mapped sound_signedNumber
  · exact .mapped sound_signedNumber
  · exact .mapped sound_strings
  · exact .andThen .skip fun _ => .andThen (.orFail fun _ _ => trivial) fun _ => .done
  · exact .andThen .skip fun _ => sound_namePattern rules pos _
  · exact .andThen .skip fun _ => sound_parenthesizedPattern rules pos
  · refine .andThen .skip fun _ => .andThen (.andThen .eat fun _ => .ite .done ?_) fun _ => .done
    exact .andThen (sound_starPattern rules) fun _ => .andThen (sound_moreElements (sound_starPattern rules)) fun _ =>
      .done
  · exact .andThen .skip fun _ => sound_mappingPattern rules pos
  · exact .failure

theorem sound_pattern : Yields SoundToken (fun _ => True) (pattern inner) := by
  have choice : Yields SoundToken (fun _ => True) (orPattern inner) := by
    refine .andThen .here fun _ => .andThen (sound_closedPattern rules) fun first => ?_
    exact .andThen (.many (.andThen .require fun _ => sound_closedPattern rules) _) fun later => .ite .done .done
  exact .andThen .here fun _ => .andThen choice fun found => .andThen .eat fun _ =>
    .ite (.andThen sound_captureName fun _ => .done) .done

theorem sound_patterns : Yields SoundToken (fun _ => True) (patterns inner) := by
  refine .andThen .here fun _ => .andThen (sound_starPattern rules) fun first => .andThen .nextIs fun _ => .ite ?_ ?_
  · refine .andThen (.many (.andThen .require fun _ => sound_starPattern rules) _) fun later => ?_
    exact .andThen .eat fun _ => .done
  · split
    · exact .failure
    · exact .done

end Patterns

end TypingAudit.Source.Grammar
