import TypingAudit.Ast.Expr

/-!
Expressions in places where something is bound or deleted. Names, attributes and subscripts can be bound,
and tuples and lists of what can be bound, in which one part may be starred.
-/

namespace TypingAudit.Source.Grammar

open Ast

mutual

/-- The expression as a target of the given usage; none when it cannot be one. -/
def toTarget (usage : Usage) : Expr → Option Expr
  | .name pos id _ => some (.name pos id usage)
  | .attribute pos value attr _ => some (.attribute pos value attr usage)
  | .subscript pos value index _ => some (.subscript pos value index usage)
  | .tuple pos elts _ => (toTargets usage elts).map fun elts => .tuple pos elts usage
  | .list pos elts _ => (toTargets usage elts).map fun elts => .list pos elts usage
  | .starred pos value _ =>
    if usage = .del then none
    else (toTarget usage value).map fun value => .starred pos value usage
  | _ => none

def toTargets (usage : Usage) : List Expr → Option (List Expr)
  | [] => some []
  | e :: es => do
    let target ← toTarget usage e
    let targets ← toTargets usage es
    some (target :: targets)

end

def toSingleTarget : Expr → Option Expr
  | .name pos id _ => some (.name pos id .store)
  | .attribute pos value attr _ => some (.attribute pos value attr .store)
  | .subscript pos value index _ => some (.subscript pos value index .store)
  | _ => none

end TypingAudit.Source.Grammar
