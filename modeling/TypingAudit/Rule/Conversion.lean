import TypingAudit.Rule.Basic

/-!
Calls that change what a value counts as: casts, which the checker takes on trust, and conversions to a
primitive type, which accept almost any input.
-/

namespace TypingAudit.Rule

open Ast Typing

def castNames : List String := ["typing.cast", "typing_extensions.cast"]

def judgeCast (stack : CallStack) (c : Context) (facts : TypeFacts) : Verdict :=
  match c.node with
  | .expr (.call pos func args keywords) =>
    if castNames.contains (facts.resolveName func) then
      .ofPrinting do
        let text ← (Expr.call pos func args keywords).sourceText stack
        return .matched ("Unsafe type assertion: " ++ text)
          "Narrow with isinstance() or a TypeGuard instead of cast()"
    else .silent
  | _ => .silent

def isCall : Node → Bool
  | .expr (.call ..) => true
  | _ => false

def typeAssertion (stack : CallStack) : Check where
  code := Audit.Code.typeAssertion
  severity := Audit.Severity.info
  applies := isCall
  judge := judgeCast stack

def primitiveNames : List String := ["int", "float", "str", "bool", "complex"]

def withoutBuiltins (name : String) : String :=
  let qualifier := "builtins.".toList
  if qualifier.isPrefixOf name.toList then String.ofList (name.toList.drop qualifier.length) else name

/-- The primitive type that a call of `func` converts to. -/
def convertedTo? (facts : TypeFacts) (func : Expr) : Option String :=
  let callee := withoutBuiltins (facts.resolveName func)
  if primitiveNames.contains callee then some callee else none

def judgeCoercion (stack : CallStack) (c : Context) (facts : TypeFacts) : Verdict :=
  match c.node with
  | .expr (.call pos func args keywords) =>
    match convertedTo? facts func with
    | none => .silent
    | some target =>
      if args.isEmpty then .silent
      else .ofPrinting do
        let text ← (Expr.call pos func args keywords).sourceText stack
        return .matched ("Unsafe type coercion: " ++ text)
          ("Validate the input and reject bad values instead of coercing with " ++ target ++ "()")
  | _ => .silent

def unsafeCoercion (stack : CallStack) : Check where
  code := Audit.Code.unsafeCoercion
  severity := Audit.Severity.error
  applies := isCall
  judge := judgeCoercion stack

end TypingAudit.Rule
