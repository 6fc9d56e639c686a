import TypingAudit.Rule.Basic

/-!
Signatures without annotations. Every parameter of a function needs one but the receiver of a method, and
every function says what it returns. Lambdas have no signature to annotate.
-/

namespace TypingAudit.Rule

open Ast Typing

def starredName (role : Role) (name : String) : String :=
  match role with
  | .varArg => "*" ++ name
  | .kwArg => "**" ++ name
  | _ => name

def judgeParameter (c : Context) (_ : TypeFacts) : Verdict :=
  match c.node with
  | .param param =>
    if param.typeHint.isSome then .silent
    else
      match c.declaringFunction? with
      | none => .silent
      | some f =>
        if c.isReceiver f then .silent
        else .matched
          ("Missing parameter type: '" ++ starredName c.role param.name ++ "' in " ++ f.function.name)
          ("Annotate '" ++ param.name ++ "' with the type callers are expected to pass")
  | _ => .silent

def missingParameterType : Check where
  code := Audit.Code.missingParamType
  severity := Audit.Severity.warning
  applies
    | .param _ => true
    | _ => false
  judge := judgeParameter

def judgeReturn (c : Context) (_ : TypeFacts) : Verdict :=
  match c.node with
  | .stmt (.functionDef f) =>
    if f.returns.isSome then .silent
    else .matched ("Missing return type: function '" ++ f.name ++ "'")
      "Add a return annotation (use '-> None' for procedures)"
  | _ => .silent

def missingReturnType : Check where
  code := Audit.Code.missingReturnType
  severity := Audit.Severity.warning
  applies
    | .stmt (.functionDef _) => true
    | _ => false
  judge := judgeReturn

end TypingAudit.Rule
