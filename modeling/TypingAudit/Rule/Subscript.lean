import TypingAudit.Rule.Basic
import TypingAudit.Rule.Guard

/-!
Element reads that no test in the same expression precedes. Slices, annotations and generic types are not
element reads; a read is guarded by the tests that decide whether it is reached at all.
-/

namespace TypingAudit.Rule

open Ast Typing

def containsSlice : Expr → Bool
  | .slice .. => true
  | .tuple _ elts _ => elts.any fun
    | .slice .. => true
    | _ => false
  | _ => false

def genericNames : List String := ["list", "dict", "set", "frozenset", "tuple", "type"]

def genericModules : List String := ["typing.", "typing_extensions.", "collections.abc."]

def isGenericName (name : String) : Bool :=
  !name.isEmpty &&
    (genericNames.contains name || genericModules.any fun m => m.toList.isPrefixOf name.toList)

def isTypeHintOf (parent : Node) (role : Role) : Bool :=
  match parent with
  | .param _ => role == .typeHint
  | .stmt (.annAssign ..) => role == .typeHint
  | .stmt (.functionDef _) => role == .returns
  | _ => false

def insideTypeHint (c : Context) : Bool :=
  c.chain.any fun (parent, child) => isTypeHintOf parent.node child.role

/-- Whether `parent` lets its child in `role` be reached only when the container was asked about. -/
def stepChecks (container : Expr) (parent : Node) (role : Role) : Except PrintError Bool :=
  match parent with
  | .expr (.ifExp _ test _ _) =>
    match role with
    | .thenBranch => holdsOnlyChecked container test
    | .elseBranch => failsOnlyChecked container test
    | _ => return false
  | .expr (.boolOp _ op values) =>
    match role with
    | .operand index =>
      match op with
      | .and => (values.take index).anyM (holdsOnlyChecked container)
      | .or => (values.take index).anyM (failsOnlyChecked container)
    | _ => return false
  | _ => return false

/-- Whether a step on the way from the nearest statement is taken only when the container was asked about. -/
def isReachedChecked (container : Expr) : List (Occurrence × Occurrence) → Except PrintError Bool
  | [] => return false
  | (parent, child) :: chain =>
    match parent.node with
    | .stmt _ => return false
    | node => stepChecks container node child.role <||> isReachedChecked container chain

def judgeSubscript (stack : CallStack) (c : Context) (facts : TypeFacts) : Verdict :=
  match c.node with
  | .expr (.subscript pos value index usage) =>
    if usage ≠ .load || containsSlice index then .silent
    else if insideTypeHint c || isGenericName (facts.resolveName value) then .silent
    else .ofPrinting do
      if ← isReachedChecked value c.chain then return .silent
      let text ← (Expr.subscript pos value index usage).sourceText stack
      return .matched ("Unsafe indexing: " ++ text ++ " has no membership or bounds check")
        "Check 'key in container' or len() first, or use .get() with a default"
  | _ => .silent

def uncheckedIndexAccess (stack : CallStack) : Check where
  code := Audit.Code.uncheckedIndexAccess
  severity := Audit.Severity.info
  applies
    | .expr (.subscript ..) => true
    | _ => false
  judge := judgeSubscript stack

end TypingAudit.Rule
