import Mathlib.Data.List.Forall2
import TypingAudit.Proofs.Ast.Descent
import TypingAudit.Proofs.Ast.RelabelledTrees
import TypingAudit.Proofs.Typing.Bindings
import TypingAudit.Proofs.Typing.Declarations
import TypingAudit.Rule.Conversion

/-!
The spelling of imports. When a name that imports bind is exchanged for one that the module does not know, in
the imports and wherever expressions use it, every call keeps the full name of what it calls, and so counts as
a cast or a conversion as before.
-/

namespace TypingAudit.Typing

open Ast

namespace Bindings

variable {α : Type}

/-- Added under other names, bindings are found under these, if no two names that matter fall together. -/
theorem get?_insertAll_rename (rename : String → String) {added : List (String × α)} {name : String}
    (apart : ∀ entry ∈ added, rename entry.1 = rename name → entry.1 = name) {b renamed : Bindings α}
    (before : renamed.get? (rename name) = b.get? name) :
    (renamed.insertAll (added.map fun entry => (rename entry.1, entry.2))).get? (rename name) =
      (b.insertAll added).get? name := by
  induction added generalizing b renamed with
  | nil => exact before
  | cons entry added ih =>
    obtain ⟨here, later⟩ := List.forall_mem_cons.1 apart
    have sameTest : rename entry.1 = rename name ↔ entry.1 = name := ⟨here, congrArg rename⟩
    refine ih later ?_
    rw [get?_insert, get?_insert, before]
    simp only [sameTest]

end Bindings

def exchange (name fresh : String) : Relabelling where
  place pos := pos
  name used := if used = name then fresh else used

def usedName? : Node → Option String
  | .expr (.name _ id _) => some id
  | _ => none

def boundRoots : Node → List String
  | .stmt (.importNames _ names) => (names.filter fun a => a.asName.isNone).map fun a => rootName a.name
  | _ => []

/-- When a name of a module can be exchanged for a fresh one. -/
structure Renamable (m : Module) (name fresh : String) : Prop where
  bound : ((importMap m.tree).get? name).isSome
  /-- An import binds one identifier, never a dotted name. -/
  undotted : '.' ∉ name.toList
  notRoot : ∀ node ∈ NodeTree.nodesByLevel m.tree, name ∉ boundRoots node
  unbound : (importMap m.tree).get? fresh = none
  unused : ∀ node ∈ NodeTree.nodesByLevel m.tree, usedName? node ≠ some fresh

section Names

variable {name fresh : String}

theorem plainBinding_relabel (undotted : '.' ∉ name.toList) {a : Alias}
    (notRoot : a.asName = none → rootName a.name ≠ name) :
    plainBinding (a.relabel (exchange name fresh)) =
      ((exchange name fresh).name (plainBinding a).1, (plainBinding a).2) := by
  cases own : a.asName with
  | some bound => simp [plainBinding, Alias.relabel, own]
  | none =>
    have root := notRoot own
    have other : a.name ≠ name := by
      intro same
      exact root (by rw [same, rootName_of_undotted undotted])
    simp [plainBinding, Alias.relabel, own, exchange, root, other]

theorem fromBinding_relabel (r : Relabelling) (module : String) (a : Alias) :
    fromBinding module (a.relabel r) = (r.name (fromBinding module a).1, (fromBinding module a).2) := by
  cases own : a.asName with
  | some bound => simp [fromBinding, Alias.relabel, own]
  | none =>
    by_cases kept : r.name a.name = a.name
    · simp [fromBinding, Alias.relabel, own, kept]
    · simp [fromBinding, Alias.relabel, own, kept]

end Names

section Modules

variable {m : Module} {name fresh : String}

theorem importBindings_relabel (renamable : Renamable m name fresh) {node : Node}
    (occurs : node ∈ NodeTree.nodesByLevel m.tree) :
    importBindings (node.relabel (exchange name fresh)) =
      (importBindings node).map fun entry => ((exchange name fresh).name entry.1, entry.2) := by
  cases node with
  | stmt s =>
    cases s with
    | importNames pos names =>
      simp only [Node.relabel, Stmt.relabel, importBindings, List.map_map]
      refine List.map_congr_left fun a member => plainBinding_relabel renamable.undotted fun own => ?_
      have root : rootName a.name ∈ boundRoots (.stmt (.importNames pos names)) :=
        List.mem_map.2 ⟨a, List.mem_filter.2 ⟨member, by rw [own]; rfl⟩, rfl⟩
      exact ne_of_mem_of_not_mem root (renamable.notRoot _ occurs)
    | importFrom pos module names level =>
      cases module with
      | none => simp only [Node.relabel, Stmt.relabel, importBindings, List.map_nil]
      | some module =>
        simp only [Node.relabel, Stmt.relabel, importBindings, List.map_map]
        exact List.map_congr_left fun a _ => fromBinding_relabel (exchange name fresh) module a
    | _ => simp only [Node.relabel, Stmt.relabel, importBindings, List.map_nil]
  | _ => simp only [Node.relabel, importBindings, List.map_nil]

/-- What the renamed module's imports bind is what those of the module bind, under the exchanged names. -/
theorem get?_importMap_relabel (renamable : Renamable m name fresh) {used : String} (known : used ≠ fresh) :
    (importMap (m.relabel (exchange name fresh)).tree).get? ((exchange name fresh).name used) =
      (importMap m.tree).get? used := by
  have bindings : (NodeTree.nodesByLevel (m.relabel (exchange name fresh)).tree).flatMap importBindings =
      ((NodeTree.nodesByLevel m.tree).flatMap importBindings).map
        fun entry => ((exchange name fresh).name entry.1, entry.2) := by
    rw [Module.nodesByLevel_relabel, List.flatMap_map, List.map_flatMap]
    exact List.flatMap_congr fun node occurs => importBindings_relabel renamable occurs
  rw [importMap, bindings, importMap]
  refine Bindings.get?_insertAll_rename _ ?_ rfl
  intro entry member together
  have other : entry.1 ≠ fresh := (Bindings.get?_insertAll_eq_none.1 renamable.unbound).2 entry member
  simp only [exchange] at together
  grind

theorem getD_importMap_relabel (renamable : Renamable m name fresh) {used : String} (known : used ≠ fresh) :
    ((importMap (m.relabel (exchange name fresh)).tree).get? ((exchange name fresh).name used)).getD
        ((exchange name fresh).name used) =
      ((importMap m.tree).get? used).getD used := by
  rw [get?_importMap_relabel renamable known]
  by_cases exchanged : used = name
  · -- an exchanged name is bound, so that it does not stand for itself
    obtain ⟨full, bound⟩ := Option.isSome_iff_exists.1 renamable.bound
    rw [exchanged, bound, Option.getD_some, Option.getD_some]
  · simp only [exchange, if_neg exchanged]

theorem fullName_relabel (renamable : Renamable m name fresh) {e : Expr}
    (occurs : .expr e ∈ NodeTree.nodesByLevel m.tree) :
    fullName (importMap (m.relabel (exchange name fresh)).tree) (e.relabel (exchange name fresh)) =
      fullName (importMap m.tree) e := by
  fun_induction fullName (importMap m.tree) e with
  | case1 pos used usage =>
    have known : used ≠ fresh := fun same => renamable.unused _ occurs (congrArg some same)
    exact getD_importMap_relabel renamable known
  | case2 pos value attr usage base empty ih =>
    have nameless := ih (Module.expr_mem_of_below occurs (value_mem_below pos value attr usage))
    simp only [Expr.relabel, fullName, nameless]
    exact if_pos empty
  | case3 pos value attr usage base named ih =>
    have kept := ih (Module.expr_mem_of_below occurs (value_mem_below pos value attr usage))
    simp only [Expr.relabel, fullName, kept]
    exact if_neg named
  | case4 e notName notAttribute =>
    -- of the forms that remain, none has a name, before or after
    cases e <;> simp only [Expr.relabel, fullName]
    · exact absurd rfl (notAttribute _ _ _ _)
    · exact absurd rfl (notName _ _ _)

end Modules

end TypingAudit.Typing

namespace TypingAudit.Rule

open Ast Typing

/-- Two nodes none of which is a call, or two calls that are alike in whether they cast and in what they
convert to. -/
inductive CallsAlike (facts facts' : TypeFacts) : Node → Node → Prop where
  | other {node node' : Node} : isCall node = false → isCall node' = false → CallsAlike facts facts' node node'
  | call {pos pos' : Source.Position} {func func' : Expr} {args args' : List Expr} {keywords keywords' : List Keyword} :
    castNames.contains (facts.resolveName func) = castNames.contains (facts'.resolveName func') →
    convertedTo? facts func = convertedTo? facts' func' →
    CallsAlike facts facts' (.expr (.call pos func args keywords)) (.expr (.call pos' func' args' keywords'))

theorem callsAlike_relabel {facts facts' : TypeFacts} (r : Relabelling) {node : Node}
    (resolved : ∀ pos func args keywords, node = .expr (.call pos func args keywords) →
      facts'.resolveName (func.relabel r) = facts.resolveName func) :
    CallsAlike facts facts' node (node.relabel r) := by
  cases node with
  | expr e =>
    cases e with
    | call pos func args keywords =>
      have same := resolved pos func args keywords rfl
      rw [Node.relabel, Expr.relabel]
      exact .call (by rw [same]) (by rw [convertedTo?, convertedTo?, same])
    | _ => exact .other rfl (by simp only [Node.relabel, Expr.relabel, isCall])
  | _ => exact .other rfl rfl

/-- Under whatever name something is imported, the same calls cast, and the same calls convert. -/
theorem calls_alike_under_any_name {m : Module} {name fresh : String} {types types' : ModuleTypes}
    (renamable : Renamable m name fresh) (gathered : ModuleTypes.ofModule m = .ok types)
    (gathered' : ModuleTypes.ofModule (m.relabel (exchange name fresh)) = .ok types') :
    List.Forall₂ (fun c c' => CallsAlike types.facts types'.facts c.node c'.node)
      (NodeTree.contexts m.tree) (NodeTree.contexts (m.relabel (exchange name fresh)).tree) := by
  rw [NodeTree.contexts_eq_inOrder, NodeTree.contexts_eq_inOrder, Module.inOrder_relabel,
    ← NodeTree.contexts_eq_inOrder, List.forall₂_map_right_iff, List.forall₂_same]
  intro c member
  have occurs : c.node ∈ NodeTree.nodesByLevel m.tree := NodeTree.mem_nodesByLevel_iff_contexts.2 ⟨c, member, rfl⟩
  refine callsAlike_relabel (exchange name fresh) fun pos func args keywords isCall => ?_
  rw [isCall] at occurs
  have inModule := Module.expr_mem_of_below occurs (func_mem_below pos func args keywords)
  calc types'.facts.resolveName (func.relabel (exchange name fresh))
      = fullName (importMap (m.relabel (exchange name fresh)).tree) (func.relabel (exchange name fresh)) := by
        rw [← ModuleTypes.ofModule_imports gathered']; rfl
    _ = fullName (importMap m.tree) func := fullName_relabel renamable inModule
    _ = types.facts.resolveName func := by rw [← ModuleTypes.ofModule_imports gathered]; rfl

/-- A module that imports a cast inside a function, below an import of the whole library under the same name. -/
def shadowingModule : Module :=
  ⟨[.importNames ⟨1, 0⟩ [⟨⟨1, 7⟩, "typing", some "c"⟩],
    .functionDef ⟨⟨2, 0⟩, false, "f", ⟨[], [], none, [], [], none, []⟩,
      [.importFrom ⟨3, 4⟩ (some "typing") [⟨⟨3, 23⟩, "cast", some "c"⟩] 0,
        .expr ⟨4, 4⟩ (.call ⟨4, 4⟩ (.name ⟨4, 4⟩ "c" .load)
          [.name ⟨4, 6⟩ "int" .load, .call ⟨4, 11⟩ (.name ⟨4, 11⟩ "int" .load) [.name ⟨4, 15⟩ "v" .load] []] [])],
      [], none⟩]⟩

theorem shadowingModule_alike :
    Renamable shadowingModule "c" "assume" ∧
    ∃ types types', ModuleTypes.ofModule shadowingModule = .ok types ∧
      ModuleTypes.ofModule (shadowingModule.relabel (exchange "c" "assume")) = .ok types' ∧
      types'.facts.resolveName (.name ⟨4, 4⟩ "assume" .load) = "typing.cast" ∧
      List.Forall₂ (fun c c' => CallsAlike types.facts types'.facts c.node c'.node)
        (NodeTree.contexts shadowingModule.tree)
        (NodeTree.contexts (shadowingModule.relabel (exchange "c" "assume")).tree) := by
  have renamable : Renamable shadowingModule "c" "assume" :=
    ⟨by decide +kernel, by decide, by decide +kernel, by decide +kernel, by decide +kernel⟩
  exact ⟨renamable, _, _, rfl, rfl, by decide +kernel, calls_alike_under_any_name renamable rfl rfl⟩

end TypingAudit.Rule
