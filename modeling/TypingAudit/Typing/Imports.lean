import TypingAudit.Ast.Context
import TypingAudit.Typing.Bindings

/-!
What the names of a module refer to. Imports are collected level by level over the whole tree, so one that
stands deeper replaces one of the same name further up, wherever the two stand. The dots of a
relative import are not looked at; one without a module part binds nothing here.
-/

namespace TypingAudit.Typing

open Ast

def rootName (name : String) : String := String.ofList (name.toList.takeWhile (· ≠ '.'))

def plainBinding (a : Alias) : String × String :=
  match a.asName with
  | some bound => (bound, a.name)
  | none => (rootName a.name, rootName a.name)

def fromBinding (module : String) (a : Alias) : String × String :=
  (a.asName.getD a.name, module ++ "." ++ a.name)

def importBindings : Node → List (String × String)
  | .stmt (.importNames _ names) => names.map plainBinding
  | .stmt (.importFrom _ (some module) names _) => names.map (fromBinding module)
  | _ => []

def importMap (tree : NodeTree) : Bindings String :=
  Bindings.empty.insertAll (tree.nodesByLevel.flatMap importBindings)

/-- The qualified name of a chain of attributes on a name; empty for any other expression. -/
def fullName (imports : Bindings String) : Expr → String
  | .name _ id _ => (imports.get? id).getD id
  | .attribute _ value attr _ =>
    let base := fullName imports value
    if base.isEmpty then "" else base ++ "." ++ attr
  | _ => ""

end TypingAudit.Typing
