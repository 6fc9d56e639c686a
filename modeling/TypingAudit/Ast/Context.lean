import TypingAudit.Ast.Node

/-!
A node in its surroundings: the path from it to the root, nearest ancestor first.
-/

namespace TypingAudit.Ast

abbrev Context := Rose.Place Occurrence

namespace Context

def node (c : Context) : Node := c.value.node

def role (c : Context) : Role := c.value.role

def parent? (c : Context) : Option Node := c.above.head?.map Occurrence.node

def alone (node : Node) : Context := ⟨⟨.other, node⟩, []⟩

end Context

def Node.function? : Node → Option FunctionDef
  | .stmt (.functionDef f) => some f
  | _ => none

def Node.isClass : Node → Bool
  | .stmt (.classDef ..) => true
  | _ => false

structure SurroundingFunction where
  function : FunctionDef
  above : List Occurrence

namespace SurroundingFunction

def nearest? : List Occurrence → Option SurroundingFunction
  | [] => none
  | o :: above =>
    match o.node.function? with
    | some f => some ⟨f, above⟩
    | none => nearest? above

def isStaticDecorator : Expr → Bool
  | .name _ id _ => id == "staticmethod"
  | .attribute _ _ attr _ => attr == "staticmethod"
  | _ => false

def isStatic (f : SurroundingFunction) : Bool := f.function.decorators.any isStaticDecorator

/-- A function that stands directly in a class body and takes an instance or class. -/
def isMethod (f : SurroundingFunction) : Bool :=
  ((f.above.head?.map fun o => o.node.isClass).getD false) && !f.isStatic

def receiver? (f : SurroundingFunction) : Option Param :=
  if f.isMethod then f.function.params.positional.head? else none

end SurroundingFunction

namespace Params

def isFirstPositional (params : Params) : Role → Bool
  | .posOnly i => i == 0
  | .regular i => params.posOnly.isEmpty && i == 0
  | _ => false

def withRoles (role : Nat → Role) : Nat → List Param → List (Role × Param)
  | _, [] => []
  | index, p :: ps => (role index, p) :: withRoles role (index + 1) ps

def roles (params : Params) : List (Role × Param) :=
  withRoles .posOnly 0 params.posOnly ++ withRoles .regular 0 params.regular ++
    params.varArg.toList.map (.varArg, ·) ++ withRoles .kwOnly 0 params.kwOnly ++
    params.kwArg.toList.map (.kwArg, ·)

/-- The default of the positional parameter at `index`: the defaults belong to the last of them. -/
def positionalDefault? (params : Params) (index : Nat) : Option Expr :=
  let offset := params.positional.length - params.defaults.length
  if index < offset then none else params.defaults[index - offset]?

def default? (params : Params) : Role → Option Expr
  | .posOnly i => params.positionalDefault? i
  | .regular i => params.positionalDefault? (params.posOnly.length + i)
  | .kwOnly i => (params.kwDefaults[i]?).join
  | _ => none

end Params

namespace Context

def functionAround? (c : Context) : Option SurroundingFunction := SurroundingFunction.nearest? c.above

/-- The function whose signature declares the parameter in a context. -/
def declaringFunction? (c : Context) : Option SurroundingFunction :=
  match c.above with
  | ⟨_, .params _⟩ :: ⟨_, .stmt (.functionDef f)⟩ :: above => some ⟨f, above⟩
  | _ => none

def isReceiver (c : Context) (f : SurroundingFunction) : Bool :=
  f.isMethod && f.function.params.isFirstPositional c.role

def paramsAbove? (c : Context) : Option Params :=
  match c.parent? with
  | some (.params params) => some params
  | _ => none

end Context

/-- Every node of a tree in its surroundings, from the top and left to right. -/
def NodeTree.contexts (tree : NodeTree) : List Context := tree.walk

def NodeTree.nodesByLevel (tree : NodeTree) : List Node := tree.levels.map Occurrence.node

end TypingAudit.Ast
