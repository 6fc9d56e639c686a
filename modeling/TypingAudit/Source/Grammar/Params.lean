import TypingAudit.Source.Grammar.Basic

/-!
Parameter lists. Positional parameters come first, a slash ends those that are positional only, and once
one has a default all later positional ones have. A star, alone or with a name, starts the keyword-only
parameters, and two stars take the rest. A comma may follow the last parameter.
-/

namespace TypingAudit.Source.Grammar

open Ast

abbrev WithDefault := Param × Option Expr

/-- What has been read of a parameter list. Lists are in reverse. -/
structure ParamsSoFar where
  posOnly : Option (List WithDefault)
  positional : List WithDefault
  varArg : Option Param
  starred : Bool
  kwOnly : List WithDefault
  kwArg : Option Param

namespace ParamsSoFar

def start : ParamsSoFar := ⟨none, [], none, false, [], none⟩

def hasDefault (s : ParamsSoFar) : Bool :=
  ((s.posOnly.getD []) ++ s.positional).any fun (_, d) => d.isSome

def add (s : ParamsSoFar) (param : Param) (default : Option Expr) : Option ParamsSoFar :=
  if s.starred then some { s with kwOnly := (param, default) :: s.kwOnly }
  else if s.hasDefault && default.isNone then none
  else some { s with positional := (param, default) :: s.positional }

def slash (s : ParamsSoFar) : Option ParamsSoFar :=
  if s.starred || s.posOnly.isSome || s.positional.isEmpty then none
  else some { s with posOnly := some s.positional, positional := [] }

def finish (s : ParamsSoFar) : Params :=
  let posOnly := (s.posOnly.getD []).reverse
  let regular := s.positional.reverse
  let kwOnly := s.kwOnly.reverse
  { posOnly := posOnly.map (·.1)
    regular := regular.map (·.1)
    varArg := s.varArg
    kwOnly := kwOnly.map (·.1)
    kwDefaults := kwOnly.map (·.2)
    kwArg := s.kwArg
    defaults := (posOnly ++ regular).filterMap (·.2) }

end ParamsSoFar

/-- How parameters are written in a place: with annotations in a signature, without in a lambda. -/
structure ParamStyle where
  annotated : Bool
  closing : String

def ParamStyle.signature : ParamStyle := ⟨true, ")"⟩

def ParamStyle.lambda : ParamStyle := ⟨false, ":"⟩

def typeHint (inner : Rules) (style : ParamStyle) : Parser (Option Expr) := do
  if style.annotated then
    if ← eatOp ":" then some <$> inner.expression else pure none
  else pure none

def starAnnotation (inner : Rules) (style : ParamStyle) : Parser (Option Expr) := do
  if style.annotated then
    if ← eatOp ":" then
      let pos ← here
      if ← eatOp "*" then
        let value ← inner.bitwiseOr
        pure (some (.starred pos value .load))
      else some <$> inner.expression
    else pure none
  else pure none

def paramEnd (style : ParamStyle) : Parser Unit := do
  if ← eatOp "," then pure ()
  else if ← nextIsOp style.closing then pure ()
  else failure

def orFail {α : Type} : Option α → Parser α
  | some a => pure a
  | none => failure

/-- A bare star must be followed by a keyword-only parameter. -/
def nameAhead : Parser Unit := do
  if ← nextIs (fun | .name _ => true | _ => false) then pure () else failure

def paramEntry (inner : Rules) (style : ParamStyle) (s : ParamsSoFar) : Parser ParamsSoFar := do
  if s.kwArg.isSome then failure
  if ← eatOp "/" then
    let s ← orFail s.slash
    paramEnd style
    pure s
  else if ← eatOp "**" then
    let pos ← here
    let id ← name
    let type ← typeHint inner style
    paramEnd style
    pure { s with kwArg := some ⟨pos, id, type⟩ }
  else if ← eatOp "*" then
    if s.starred then failure
    if ← eatOp "," then
      nameAhead
      pure { s with starred := true }
    else
      let pos ← here
      let id ← name
      let type ← starAnnotation inner style
      paramEnd style
      pure { s with varArg := some ⟨pos, id, type⟩, starred := true }
  else
    let pos ← here
    let id ← name
    let type ← typeHint inner style
    let default ← if ← eatOp "=" then some <$> inner.expression else pure none
    paramEnd style
    orFail (s.add ⟨pos, id, type⟩ default)

def params (inner : Rules) (style : ParamStyle) : Parser Params := do
  let s ← extendWhile (paramEntry inner style) inner.limit .start
  pure s.finish

end TypingAudit.Source.Grammar
