import TypingAudit.Ast.Printer
import TypingAudit.Typing.Imports

/-!
What a single module says about types: through annotations, literal values, aliases of the dynamic type at
its top level, and a few calls known to return a dynamic value. Rules ask for the type at a node
and whether a type means the dynamic one; no answer means that the module does not tell.
-/

namespace TypingAudit.Typing

open Ast

structure TypeFacts where
  /-- The declared or inferred type of the node in a context. -/
  typeAt : Context → Except PrintError (Option String)
  meansDynamic : Option String → Bool
  /-- The qualified name that an expression refers to, or the empty text. -/
  resolveName : Expr → String

/-- The dynamic type under its full name, which no binding in a module can change. -/
def dynamicType : String := "typing.Any"

def dynamicSpellings : List String := ["Any", "typing.Any", "typing_extensions.Any"]

def dynamicCalls : List String :=
  ["eval", "json.load", "json.loads", "pickle.load", "pickle.loads", "marshal.loads", "yaml.load",
    "yaml.safe_load", "yaml.full_load"]

/-- The type of a literal or display; none for other expressions and for `None`. -/
def typeOfLiteral? : Expr → Option String
  | .constant _ value => value.typeName?
  | .list .. => some "list"
  | .listComp .. => some "list"
  | .dict .. => some "dict"
  | .dictComp .. => some "dict"
  | .set .. => some "set"
  | .setComp .. => some "set"
  | .tuple .. => some "tuple"
  | .joined .. => some "str"
  | _ => none

/-- What a module declares at its top level, and its imports. -/
structure ModuleTypes where
  imports : Bindings String
  /-- Names bound to the dynamic type. -/
  dynamicAliases : List String
  /-- Functions with the text of their return annotation. -/
  returnTypes : Bindings (Option String)
  classNames : List String

namespace ModuleTypes

def ofImports (imports : Bindings String) : ModuleTypes := ⟨imports, [], .empty, []⟩

def namesDynamic (types : ModuleTypes) (value : Expr) : Bool :=
  dynamicSpellings.contains (fullName types.imports value)

def addAlias (types : ModuleTypes) (target value : Expr) : ModuleTypes :=
  match target with
  | .name _ id _ =>
    if types.namesDynamic value then { types with dynamicAliases := id :: types.dynamicAliases }
    else types
  | _ => types

def addStmt (types : ModuleTypes) : Stmt → Except PrintError ModuleTypes
  | .classDef _ name .. => .ok { types with classNames := name :: types.classNames }
  | .functionDef f =>
    match f.returns with
    | none => .ok { types with returnTypes := types.returnTypes.insert f.name none }
    | some typeHint => do
      let text ← typeHint.print
      return { types with returnTypes := types.returnTypes.insert f.name (some text) }
  | .assign _ [target] value => .ok (types.addAlias target value)
  | .annAssign _ target _ (some value) => .ok (types.addAlias target value)
  | _ => .ok types

def ofModule (m : Module) : Except PrintError ModuleTypes :=
  m.body.foldlM addStmt (ofImports (importMap m.tree))

def bareType (text : String) : String :=
  String.ofList (Text.trimBoth (fun c => c == '\'' || c == '"') (Text.trimBlanks text.toList))

/-- A dotted name with its first part replaced by what it is bound to. -/
def resolveText (types : ModuleTypes) (text : String) : String :=
  let front := rootName text
  let resolved := (types.imports.get? front).getD front
  let rest := String.ofList ((text.toList.dropWhile (· ≠ '.')).drop 1)
  if rest.isEmpty then resolved else resolved ++ "." ++ rest

def meansDynamic (types : ModuleTypes) : Option String → Bool
  | none => false
  | some text =>
    if text.isEmpty then false
    else if text == dynamicType then true
    else
      let bare := bareType text
      types.dynamicAliases.contains bare || dynamicSpellings.contains (types.resolveText bare)

/-- The type of a parameter without annotation: that of its default, when the default tells. -/
def defaultType (default : Option Expr) : String :=
  (default.bind typeOfLiteral?).getD dynamicType

def typeOfParam (param : Param) (params : Option Params) (role : Role) :
    Except PrintError (Option String) :=
  match param.typeHint with
  | some typeHint => some <$> typeHint.print
  | none => .ok (some (defaultType (params.bind fun params => params.default? role)))

def typeOfName (name : String) (c : Context) : Except PrintError (Option String) :=
  match c.functionAround? with
  | none => .ok none
  | some f =>
    match f.function.params.roles.find? fun entry => entry.2.name == name with
    | none => .ok none
    | some (role, param) => typeOfParam param (some f.function.params) role

def typeOfExpr (types : ModuleTypes) (c : Context) (e : Expr) :
    Except PrintError (Option String) :=
  match typeOfLiteral? e with
  | some type => .ok (some type)
  | none =>
    match e with
    | .name _ id _ => typeOfName id c
    | .call _ func .. =>
      if dynamicCalls.contains (fullName types.imports func) then .ok (some dynamicType)
      else
        match func with
        | .name _ id _ =>
          if types.classNames.contains id then .ok (some id)
          else .ok (types.returnTypes.get? id).join
        | _ => .ok none
    | _ => .ok none

def typeAt (types : ModuleTypes) (c : Context) : Except PrintError (Option String) :=
  match c.node with
  | .param param => typeOfParam param c.paramsAbove? c.role
  | .stmt (.annAssign _ _ typeHint _) => some <$> typeHint.print
  | .stmt (.assign _ _ value) => types.typeOfExpr c value
  | .expr e => types.typeOfExpr c e
  | _ => .ok none

def facts (types : ModuleTypes) : TypeFacts where
  typeAt := types.typeAt
  meansDynamic := types.meansDynamic
  resolveName := fullName types.imports

end ModuleTypes

end TypingAudit.Typing
