import Mathlib.Data.List.Basic
import TypingAudit.Proofs.Typing.DynamicNames

/-!
Names of the program's own package. A relative import tells by its dots that the name does not come from outside. What
is recorded of it is the same as without the dots: its module part and the name there, and nothing if there is no module
part.
-/

namespace TypingAudit.Typing

open Ast

section Own

def boundNames : Node → List String
  | .stmt (.importNames _ names) => names.map fun a => (plainBinding a).1
  | .stmt (.importFrom _ _ names _) => names.map fun a => a.asName.getD a.name
  | _ => []

def isRelative : Node → Bool
  | .stmt (.importFrom _ _ _ level) => decide (1 ≤ level)
  | _ => false

/-- Whether a name is bound by an import of the module, and by relative imports only. -/
def isOwn (m : Module) (name : String) : Bool :=
  let imports := m.tree.nodesByLevel.filter fun node => (boundNames node).contains name
  !imports.isEmpty && imports.all isRelative

theorem isRelative_of_isOwn {m : Module} {name : String} (own : isOwn m name = true) {node : Node}
    (occurs : node ∈ m.tree.nodesByLevel) (binds : name ∈ boundNames node) : isRelative node = true := by
  have relative := (Bool.and_eq_true_iff.1 own).2
  exact List.all_eq_true.1 relative node (List.mem_filter.2 ⟨occurs, List.contains_iff_mem.2 binds⟩)

end Own

section Recorded

abbrev Member := String × String

def Member.text (entry : Member) : String := entry.1 ++ "." ++ entry.2

/-- What an import from a module with a name records for a name that it binds. -/
def recordedBy (name : String) : Node → List Member
  | .stmt (.importFrom _ (some module) names _) =>
    (names.filter fun a => a.asName.getD a.name == name).map fun a => (module, a.name)
  | _ => []

/-- The last record of a name, the imports being taken level by level. -/
def lastRecord? (m : Module) (name : String) : Option Member :=
  (m.tree.nodesByLevel.flatMap (recordedBy name)).getLast?

theorem filter_importBindings {name : String} {node : Node}
    (relative : name ∈ boundNames node → isRelative node = true) :
    (importBindings node).filter (fun entry => entry.1 == name) =
      (recordedBy name node).map fun entry => (name, Member.text entry) := by
  unfold importBindings recordedBy
  split
  · rename_i pos names
    apply List.filter_eq_nil_iff.2
    intro entry bound
    obtain ⟨a, listed, rfl⟩ := List.mem_map.1 bound
    intro same
    have binds : name ∈ boundNames (.stmt (.importNames pos names)) :=
      List.mem_map.2 ⟨a, listed, beq_iff_eq.1 same⟩
    cases relative binds
  · rename_i pos module names level
    rw [List.filter_map, List.map_map]
    apply List.map_congr_left
    intro a kept
    have same : a.asName.getD a.name = name := beq_iff_eq.1 (List.mem_filter.1 kept).2
    simp [fromBinding, Member.text, same]
  · rename_i noPlain noFrom
    split
    · exact absurd rfl (noFrom _ _ _ _)
    · rfl

/-- All that counts of a name of the own package is its last record. -/
theorem importedAs?_of_isOwn {m : Module} {name : String} (own : isOwn m name = true) :
    importedAs? m name = (lastRecord? m name).map Member.text := by
  have bindings : (m.tree.nodesByLevel.flatMap importBindings).filter (fun entry => entry.1 == name) =
      (m.tree.nodesByLevel.flatMap (recordedBy name)).map fun entry => (name, Member.text entry) := by
    rw [List.filter_flatMap, List.map_flatMap]
    apply List.flatMap_congr
    intro node occurs
    exact filter_importBindings (isRelative_of_isOwn own occurs)
  rw [importedAs?, bindings, List.getLast?_map, Option.map_map, lastRecord?]
  rfl

end Recorded

section Texts

variable {name text module : String}

theorem Member.toList_text (entry : Member) : entry.text.toList = entry.1.toList ++ '.' :: entry.2.toList := by
  simp [text]

theorem Member.text_eq_iff {entry : Member} (undottedModule : '.' ∉ module.toList) (undotted : '.' ∉ text.toList) :
    entry.text = Member.text (module, text) ↔ entry = (module, text) := by
  constructor
  · intro same
    have split : module.toList ++ '.' :: text.toList = entry.1.toList ++ '.' :: entry.2.toList := by
      rw [← entry.toList_text, same, Member.toList_text]
    obtain ⟨sameModule, -, sameName⟩ := (List.append_cons_inj_of_notMem undottedModule undotted).1 split
    exact Prod.ext (String.toList_injective sameModule.symm) (String.toList_injective sameName.symm)
  · rintro rfl
    rfl

variable (record : Option Member)

theorem getD_text_eq_iff (undotted : '.' ∉ text.toList) :
    (record.map Member.text).getD name = text ↔ record = none ∧ name = text := by
  cases record with
  | none => simp
  | some entry =>
    have differs : entry.text ≠ text := by
      rintro rfl
      rw [entry.toList_text] at undotted
      simp at undotted
    simp [differs]

theorem getD_text_eq_text_iff (undottedName : '.' ∉ name.toList) (undottedModule : '.' ∉ module.toList)
    (undotted : '.' ∉ text.toList) :
    (record.map Member.text).getD name = Member.text (module, text) ↔ record = some (module, text) := by
  cases record with
  | none =>
    have differs : name ≠ Member.text (module, text) := by
      rintro rfl
      rw [Member.toList_text] at undottedName
      simp at undottedName
    simpa using differs
  | some entry =>
    rw [Option.map_some, Option.getD_some, Member.text_eq_iff undottedModule undotted, Option.some_inj]

end Texts

section Dynamic

def typingModules : List String := ["typing", "typing_extensions"]

theorem undotted_of_mem_typingModules {module : String} (listed : module ∈ typingModules) : '.' ∉ module.toList := by
  have all : ∀ module ∈ typingModules, '.' ∉ module.toList := by decide
  exact all module listed

theorem getD_text_mem_typing_iff {name text : String} (record : Option Member) (undottedName : '.' ∉ name.toList)
    (undotted : '.' ∉ text.toList) :
    (record.map Member.text).getD name ∈ typingModules.map (fun module => Member.text (module, text)) ↔
      ∃ module ∈ typingModules, record = some (module, text) := by
  rw [List.mem_map]
  refine exists_congr fun module => and_congr_right fun listed => ?_
  rw [eq_comm]
  exact getD_text_eq_text_iff record undottedName (undotted_of_mem_typingModules listed) undotted

theorem takesForDynamic_of_isOwn {m : Module} {name : String} (own : isOwn m name = true) (word : isWord name = true) :
    takesForDynamic m name = true ↔
      aliasesDynamic m name = true ∨ lastRecord? m name = none ∧ name = "Any" ∨
        ∃ module ∈ typingModules, lastRecord? m name = some (module, "Any") := by
  have spellings : dynamicSpellings = "Any" :: typingModules.map fun module => Member.text (module, "Any") := rfl
  rw [takesForDynamic, Bool.or_eq_true, importedAs?_of_isOwn own, List.contains_iff_mem, spellings, List.mem_cons,
    getD_text_eq_iff _ (by decide), getD_text_mem_typing_iff _ (undotted_of_isWord word) (by decide)]

end Dynamic

end TypingAudit.Typing
