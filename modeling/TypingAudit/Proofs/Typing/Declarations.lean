import TypingAudit.Typing.Facts
import TypingAudit.Proofs.Computation

/-!
What the declarations of a module can do to the facts gathered from it. Names always refer to what the imports
of the whole tree say, and gathering fails for one reason only: a function of the top level has a return
annotation without text.
-/

namespace TypingAudit.Typing.ModuleTypes

open Ast

/-- The return annotation that a statement carries, if it is a function definition with one. -/
def returnHint? : Stmt → Option Expr
  | .functionDef f => f.returns
  | _ => none

theorem addAlias_imports (types : ModuleTypes) (target value : Expr) :
    (types.addAlias target value).imports = types.imports := by
  unfold addAlias
  split
  · split <;> rfl
  · rfl

theorem addStmt_imports (types next : ModuleTypes) (s : Stmt) (added : types.addStmt s = .ok next) :
    next.imports = types.imports := by
  unfold addStmt at added
  split at added
  · cases added
    rfl
  · split at added
    · cases added
      rfl
    · obtain ⟨text, written, -⟩ := Succeeds.of_bind ⟨next, added⟩
      rw [written] at added
      cases added
      rfl
  · cases added
    exact types.addAlias_imports _ _
  · cases added
    exact types.addAlias_imports _ _
  · cases added
    rfl

theorem addStmt_succeeds_of_none (types : ModuleTypes) {s : Stmt} (absent : returnHint? s = none) :
    Succeeds (types.addStmt s) := by
  unfold addStmt
  split
  · exact Succeeds.ok _
  · rename_i f
    have noReturn : f.returns = none := absent
    simp [noReturn]
  · exact Succeeds.ok _
  · exact Succeeds.ok _
  · exact Succeeds.ok _

theorem addStmt_succeeds_iff (types : ModuleTypes) (s : Stmt) :
    Succeeds (types.addStmt s) ↔ ∀ hint, returnHint? s = some hint → Succeeds hint.print := by
  cases present : returnHint? s with
  | none => simpa using types.addStmt_succeeds_of_none present
  | some hint =>
    unfold returnHint? at present
    split at present
    · simp only [addStmt, present, Option.some.injEq, forall_eq']
      constructor
      · intro whole
        obtain ⟨text, written, -⟩ := whole.of_bind
        exact ⟨text, written⟩
      · exact Succeeds.andThen
    · cases present

theorem ofModule_imports {m : Module} {types : ModuleTypes} (gathered : ofModule m = .ok types) :
    types.imports = importMap m.tree := by
  apply foldlM_keeps (fun types => types.imports = importMap m.tree) _ _ _ _ gathered rfl
  intro types s next added same
  rw [addStmt_imports types next s added, same]

theorem ofModule_succeeds_iff (m : Module) :
    Succeeds (ofModule m) ↔ ∀ s ∈ m.body, ∀ hint, returnHint? s = some hint → Succeeds hint.print :=
  foldlM_succeeds_iff addStmt_succeeds_iff m.body _

end TypingAudit.Typing.ModuleTypes
