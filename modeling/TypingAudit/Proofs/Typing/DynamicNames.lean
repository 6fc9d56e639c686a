import TypingAudit.Proofs.Text.Identifiers
import TypingAudit.Proofs.Typing.Bindings
import TypingAudit.Proofs.Typing.Declarations

/-!
Names that a module takes for the dynamic type: those that a statement of its top level binds to this type, and those
whose last import, or else whose own text, is a spelling of it.
-/

namespace TypingAudit.Typing

open Ast

section Texts

theorem bareType_of_clean {text : String}
    (clean : ∀ c ∈ text.toList, c ≠ '\'' ∧ c ≠ '"' ∧ Text.isBlank c.toNat = false) :
    ModuleTypes.bareType text = text := by
  have unblank : Text.trimBlanks text.toList = text.toList :=
    Text.trimBoth_eq_self fun c member => (clean c member).2.2
  have unquoted : Text.trimBoth (fun c => c == '\'' || c == '"') text.toList = text.toList := by
    apply Text.trimBoth_eq_self
    intro c member
    obtain ⟨single, double, -⟩ := clean c member
    simp [single, double]
  rw [ModuleTypes.bareType, unblank, unquoted, String.ofList_toList]

/-- Only what comes before the first full stop is looked up. -/
theorem resolveText_append {types : ModuleTypes} {root rest : String} (undotted : '.' ∉ root.toList)
    (follows : rest = "" ∨ ∃ more, more ≠ "" ∧ rest = "." ++ more) :
    types.resolveText (root ++ rest) = (types.imports.get? root).getD root ++ rest := by
  have passes : ∀ c ∈ root.toList, decide (c ≠ '.') = true := fun c inRoot =>
    decide_eq_true (ne_of_mem_of_not_mem inRoot undotted)
  rcases follows with rfl | ⟨more, nonempty, rfl⟩
  · have front : rootName root = root := rootName_of_undotted undotted
    have behind : root.toList.dropWhile (· ≠ '.') = [] := List.dropWhile_eq_nil_iff.2 passes
    rw [String.append_empty, String.append_empty, ModuleTypes.resolveText, front, behind]
    rfl
  · have chars : (root ++ ("." ++ more)).toList = root.toList ++ '.' :: more.toList := by simp
    have front : rootName (root ++ ("." ++ more)) = root := by
      rw [rootName, chars, List.takeWhile_append_of_pos passes]
      simp
    have behind : String.ofList (((root ++ ("." ++ more)).toList.dropWhile (· ≠ '.')).drop 1) = more := by
      rw [chars, List.dropWhile_append_of_pos passes]
      simp
    rw [ModuleTypes.resolveText, front, behind]
    simp [nonempty, String.append_assoc]

end Texts

section Words

/-- Whether a text is one word: not empty, and with no full stop, quote or blank in it. -/
def isWord (text : String) : Bool :=
  !text.isEmpty && text.toList.all fun c => c != '.' && c != '\'' && c != '"' && !Text.isBlank c.toNat

variable {name : String} (word : isWord name = true)
include word

theorem isEmpty_of_isWord : name.isEmpty = false := by
  simpa using (Bool.and_eq_true_iff.1 word).1

theorem clean_of_isWord {c : Char} (member : c ∈ name.toList) :
    c ≠ '.' ∧ c ≠ '\'' ∧ c ≠ '"' ∧ Text.isBlank c.toNat = false := by
  have clean := List.all_eq_true.1 (Bool.and_eq_true_iff.1 word).2 c member
  simpa [and_assoc] using clean

theorem undotted_of_isWord : '.' ∉ name.toList :=
  fun member => (clean_of_isWord word member).1 rfl

theorem bareType_of_isWord : ModuleTypes.bareType name = name :=
  bareType_of_clean fun _ member => (clean_of_isWord word member).2

theorem resolveText_of_isWord (types : ModuleTypes) : types.resolveText name = (types.imports.get? name).getD name := by
  have resolved : types.resolveText (name ++ "") = (types.imports.get? name).getD name ++ "" :=
    resolveText_append (undotted_of_isWord word) (.inl rfl)
  rwa [String.append_empty, String.append_empty] at resolved

theorem meansDynamic_of_isWord (types : ModuleTypes) :
    types.meansDynamic (some name) =
      (types.dynamicAliases.contains name || dynamicSpellings.contains ((types.imports.get? name).getD name)) := by
  have qualified : ¬isWord dynamicType = true := by decide
  have other : (name == dynamicType) = false := by
    apply beq_eq_false_iff_ne.2
    rintro rfl
    exact qualified word
  simp [ModuleTypes.meansDynamic, isEmpty_of_isWord word, other, bareType_of_isWord word, resolveText_of_isWord word]

end Words

section Imports

/-- What a name stands for after the last import of it, the imports being taken level by level. -/
def importedAs? (m : Module) (name : String) : Option String :=
  ((m.tree.nodesByLevel.flatMap importBindings).filter fun entry => entry.1 == name).getLast?.map Prod.snd

theorem get?_importMap (m : Module) (name : String) : (importMap m.tree).get? name = importedAs? m name := by
  rw [importMap, Bindings.get?_insertAll]
  exact Option.or_none

end Imports

section Aliases

def plainName? : Expr → Option String
  | .name _ id _ => some id
  | _ => none

def nameBinding? : Stmt → Option (String × Expr)
  | .assign _ [target] value => (plainName? target).map (·, value)
  | .annAssign _ target _ (some value) => (plainName? target).map (·, value)
  | _ => none

def bindsDynamic (imports : Bindings String) (name : String) (s : Stmt) : Bool :=
  (nameBinding? s).any fun bound => bound.1 == name && dynamicSpellings.contains (fullName imports bound.2)

def aliasesDynamic (m : Module) (name : String) : Bool := m.body.any (bindsDynamic (importMap m.tree) name)

namespace ModuleTypes

variable {types next last : ModuleTypes} {name : String}

theorem contains_dynamicAliases_addAlias (target value : Expr) :
    (types.addAlias target value).dynamicAliases.contains name =
      (types.dynamicAliases.contains name || ((plainName? target).map (·, value)).any fun bound =>
        bound.1 == name && dynamicSpellings.contains (fullName types.imports bound.2)) := by
  unfold addAlias plainName?
  split
  · rename_i pos id use
    by_cases dynamic : dynamicSpellings.contains (fullName types.imports value) = true
    · have same : (name == id) = (id == name) := BEq.comm
      rw [namesDynamic, if_pos dynamic, List.contains_cons, same, Bool.or_comm]
      simp only [Option.map_some, Option.any_some, dynamic, Bool.and_true]
    · rw [namesDynamic, if_neg dynamic]
      simp only [Option.map_some, Option.any_some, Bool.eq_false_iff.2 dynamic, Bool.and_false, Bool.or_false]
  · simp

theorem contains_dynamicAliases_addStmt {s : Stmt} (added : types.addStmt s = .ok next) :
    next.dynamicAliases.contains name = (types.dynamicAliases.contains name || bindsDynamic types.imports name s) := by
  unfold addStmt at added
  split at added
  · cases added
    simp [bindsDynamic, nameBinding?]
  · split at added
    · cases added
      simp [bindsDynamic, nameBinding?]
    · obtain ⟨text, -, rest⟩ := bind_eq_ok_iff.1 added
      cases rest
      simp [bindsDynamic, nameBinding?]
  · cases added
    exact contains_dynamicAliases_addAlias _ _
  · cases added
    exact contains_dynamicAliases_addAlias _ _
  · rename_i noClass noFunction noAssign noAnnAssign
    cases added
    have none : nameBinding? s = none := by
      unfold nameBinding?
      split
      · exact absurd rfl (noAssign _ _ _)
      · exact absurd rfl (noAnnAssign _ _ _ _)
      · rfl
    simp [bindsDynamic, none]

theorem contains_dynamicAliases_foldlM {body : List Stmt} (gathered : body.foldlM addStmt types = .ok last) :
    last.dynamicAliases.contains name =
      (types.dynamicAliases.contains name || body.any (bindsDynamic types.imports name)) := by
  induction body generalizing types with
  | nil =>
    cases gathered
    rw [List.any_nil, Bool.or_false]
  | cons s body ih =>
    rw [List.foldlM_cons, bind_eq_ok_iff] at gathered
    obtain ⟨next, added, rest⟩ := gathered
    rw [ih rest, contains_dynamicAliases_addStmt added, addStmt_imports types next s added, List.any_cons,
      Bool.or_assoc]

theorem contains_dynamicAliases {m : Module} (gathered : ofModule m = .ok types) :
    types.dynamicAliases.contains name = aliasesDynamic m name :=
  contains_dynamicAliases_foldlM gathered

end ModuleTypes

end Aliases

/-- Whether a module takes a name for the dynamic type. -/
def takesForDynamic (m : Module) (name : String) : Bool :=
  aliasesDynamic m name || dynamicSpellings.contains ((importedAs? m name).getD name)

theorem meansDynamic_eq {m : Module} {types : ModuleTypes} (gathered : ModuleTypes.ofModule m = .ok types)
    {name : String} (word : isWord name = true) : types.meansDynamic (some name) = takesForDynamic m name := by
  rw [meansDynamic_of_isWord word, ModuleTypes.contains_dynamicAliases gathered, ModuleTypes.ofModule_imports gathered,
    get?_importMap, takesForDynamic]

end TypingAudit.Typing
