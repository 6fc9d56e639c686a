import TypingAudit.Rule.Basic

/-!
Parameters and fields that end up with the dynamic type although nobody asked for it. Where the source
spells the dynamic type out, the choice is deliberate and nothing is reported.
-/

namespace TypingAudit.Rule

open Ast Typing
open Text (CodePoints)

def spellsDynamic : Expr → Except PrintError Bool
  | .constant _ (.str text _) =>
    .ok (decide (text.trimmed.afterLastDot = CodePoints.ofString "Any"))
  | typeHint => do
    let text ← typeHint.print
    return decide ((CodePoints.ofString text).afterLastDot = CodePoints.ofString "Any")

def spellsDynamic? : Option Expr → Except PrintError Bool
  | none => .ok false
  | some typeHint => spellsDynamic typeHint

def typeText (type : Option String) : String :=
  match type with
  | none => "None"
  | some text => if text == dynamicType then "Any" else text

def dynamicFix : String :=
  "Declare a concrete type, or annotate with 'Any' explicitly if dynamism is intended"

/-- The report on a binding whose apparent type turns out to be dynamic. -/
def judgeType (what name : String) (c : Context) (facts : TypeFacts) :
    Except PrintError Verdict := do
  let type ← facts.typeAt c
  if facts.meansDynamic type then
    return .matched
      ("Implicit Any type: " ++ what ++ " '" ++ name ++ "' (" ++ name ++ ": " ++ typeText type ++ ")")
      dynamicFix
  else return .silent

def judgeDynamicParameter (c : Context) (facts : TypeFacts) : Verdict :=
  match c.node with
  | .param param =>
    match c.declaringFunction? with
    | none => .silent
    | some f =>
      if c.isReceiver f then .silent
      else .ofPrinting do
        if ← spellsDynamic? param.typeHint then return .silent
        judgeType "parameter" param.name c facts
  | _ => .silent

def implicitDynamicParameter : Check where
  code := Audit.Code.implicitDynamic
  severity := Audit.Severity.warning
  applies
    | .param _ => true
    | _ => false
  judge := judgeDynamicParameter

def assignment? : Node → Option (Expr × Option Expr)
  | .stmt (.assign _ [target] _) => some (target, none)
  | .stmt (.annAssign _ target typeHint _) => some (target, some typeHint)
  | _ => none

/-- The field that a target declares: a name in a class body, or an attribute of a method's receiver. -/
def assignedName? (c : Context) (target : Expr) : Option String :=
  if (c.parent?.map Node.isClass).getD false then
    match target with
    | .name _ id _ => some id
    | _ => none
  else
    match target with
    | .attribute _ (.name _ owner _) attr _ => do
      let f ← c.functionAround?
      let receiver ← f.receiver?
      if receiver.name == owner then some (receiver.name ++ "." ++ attr) else none
    | _ => none

def judgeDynamicField (c : Context) (facts : TypeFacts) : Verdict :=
  match assignment? c.node with
  | none => .silent
  | some (target, typeHint) =>
    match assignedName? c target with
    | none => .silent
    | some name => .ofPrinting do
      if ← spellsDynamic? typeHint then return .silent
      judgeType "field" name c facts

def implicitDynamicField : Check where
  code := Audit.Code.implicitDynamic
  severity := Audit.Severity.warning
  applies
    | .stmt (.assign ..) => true
    | .stmt (.annAssign ..) => true
    | _ => false
  judge := judgeDynamicField

end TypingAudit.Rule
