import TypingAudit.Audit.Unit
import TypingAudit.Proofs.Computation
import TypingAudit.Proofs.Source.BoundNames

/-!
Dotted names as types. An annotation is kept as a text, in which only the quotes at the edges and the part before the
first full stop are looked at. Elsewhere the same name is a chain of attributes, which is resolved from the inside out.
Both ways agree on which chains of identifiers mean the dynamic type, written plainly or in quotes. A quoted chain with
a `u` in front is another matter: its text does not begin with a quote, so its first name is never recognized.
-/

namespace TypingAudit.Typing

open Ast Text

/-- A chain of attributes on a name, all of them identifiers, with the name at its root and the rest of its text. -/
inductive DottedName : Expr → String → String → Prop where
  | name {pos id use} (named : isIdentifier id = true) : DottedName (.name pos id use) id ""
  | member {pos value root rest attr use} (inner : DottedName value root rest) (named : isIdentifier attr = true) :
    DottedName (.attribute pos value attr use) root (rest ++ "." ++ attr)

namespace DottedName

variable {e : Expr} {root rest : String}

theorem printAt (chain : DottedName e root rest) (sparing : Bool) (level : Level) :
    e.printAt sparing level = .ok (root ++ rest) := by
  induction chain generalizing level with
  | name named =>
    rw [Expr.printAt, String.append_empty]
    rfl
  | @member pos value root rest attr use inner named ih =>
    have noNumber : Printer.isTruthNumber value = false := by cases inner <;> rfl
    rw [Expr.printAt, ih, noNumber]
    change Except.ok (root ++ rest ++ "." ++ attr) = _
    rw [String.append_assoc, String.append_assoc, String.append_assoc]

theorem isIdentifier_root (chain : DottedName e root rest) : isIdentifier root = true := by
  induction chain with
  | name named => exact named
  | member inner named ih => exact ih

theorem undotted (chain : DottedName e root rest) : '.' ∉ root.toList :=
  fun inRoot => (inert_of_isIdentifier chain.isIdentifier_root inRoot).2 rfl

theorem text_ne_empty (chain : DottedName e root rest) : root ++ rest ≠ "" := by
  have nonempty : root ≠ "" := ne_empty_of_isIdentifier chain.isIdentifier_root
  simp [nonempty]

theorem rest_cases (chain : DottedName e root rest) : rest = "" ∨ ∃ more, more ≠ "" ∧ rest = "." ++ more := by
  induction chain with
  | name named => exact .inl rfl
  | @member pos value root rest attr use inner named ih =>
    rcases ih with rfl | ⟨more, -, rfl⟩
    · exact .inr ⟨attr, ne_empty_of_isIdentifier named, by rw [String.empty_append]⟩
    · refine .inr ⟨more ++ "." ++ attr, ?_, ?_⟩
      · simp
      · simp only [String.append_assoc]

theorem inert (chain : DottedName e root rest) : ∀ c ∈ (root ++ rest).toList, isInert c = true := by
  induction chain with
  | name named =>
    intro c member
    rw [String.append_empty] at member
    exact (inert_of_isIdentifier named member).1
  | @member pos value root rest attr use inner named ih =>
    intro c member
    rw [← String.append_assoc, ← String.append_assoc, String.toList_append, String.toList_append, List.mem_append,
      List.mem_append] at member
    rcases member with (earlier | stop) | later
    · exact ih c earlier
    · obtain rfl := List.mem_singleton.1 stop
      decide
    · exact (inert_of_isIdentifier named later).1

theorem fullName_eq (chain : DottedName e root rest) (imports : Bindings String) :
    fullName imports e =
      if (imports.get? root).getD root = "" then "" else (imports.get? root).getD root ++ rest := by
  induction chain with
  | @name pos id use named =>
    rw [fullName, String.append_empty]
    split
    · assumption
    · rfl
  | @member pos value root rest attr use inner named ih =>
    rw [fullName, ih]
    by_cases nameless : (imports.get? root).getD root = ""
    · simp [nameless]
    · simp [nameless, String.append_assoc]

end DottedName

section Texts

variable {types : ModuleTypes}

theorem meansDynamic_iff {text bare : String} (bared : ModuleTypes.bareType text = bare) (nonempty : text ≠ "") :
    types.meansDynamic (some text) = true ↔
      text = dynamicType ∨ bare ∈ types.dynamicAliases ∨ types.resolveText bare ∈ dynamicSpellings := by
  simp [ModuleTypes.meansDynamic, bared, nonempty]

theorem bareType_enclosed {front text back : List Char} (frontQuotes : ∀ c ∈ front, c = '\'')
    (backQuotes : ∀ c ∈ back, c = '\'') (unblank : ∀ c ∈ text, isBlank c.toNat = false)
    (first : ∀ c ∈ text.head?, c ≠ '\'' ∧ c ≠ '"') (last : ∀ c ∈ text.getLast?, c ≠ '\'' ∧ c ≠ '"') :
    ModuleTypes.bareType (String.ofList (front ++ (text ++ back))) = String.ofList text := by
  have quote : ∀ c, c = '\'' → isBlank c.toNat = false := by
    rintro c rfl
    decide
  have untrimmed : trimBlanks (front ++ (text ++ back)) = front ++ (text ++ back) := by
    apply trimBoth_eq_self
    intro c inside
    rcases List.mem_append.1 inside with inFront | inside
    · exact quote c (frontQuotes c inFront)
    · rcases List.mem_append.1 inside with inText | inBack
      · exact unblank c inText
      · exact quote c (backQuotes c inBack)
  rw [ModuleTypes.bareType, String.toList_ofList, untrimmed]
  congr 1
  apply trimBoth_enclosed
  · intro c inFront
    simp [frontQuotes c inFront]
  · intro c inBack
    simp [backQuotes c inBack]
  · intro c isFirst
    simp [first c isFirst]
  · intro c isLast
    simp [last c isLast]

section Inert

variable {text : String} (inert : ∀ c ∈ text.toList, isInert c = true)
include inert

theorem bareType_of_inert : ModuleTypes.bareType text = text := by
  apply bareType_of_clean
  intro c inText
  obtain ⟨single, double⟩ := ne_quote_of_isInert (inert c inText)
  exact ⟨single, double, unblank_of_isInert (inert c inText)⟩

theorem bareType_quoted : ModuleTypes.bareType ("'" ++ text ++ "'") = text := by
  have bared : ModuleTypes.bareType (String.ofList (['\''] ++ (text.toList ++ ['\'']))) =
      String.ofList text.toList := by
    apply bareType_enclosed
    · simp
    · simp
    · exact fun c inText => unblank_of_isInert (inert c inText)
    · intro c first
      exact ne_quote_of_isInert (inert c (List.mem_of_head? first))
    · intro c last
      exact ne_quote_of_isInert (inert c (List.mem_of_getLast? last))
  have chars : "'" ++ text ++ "'" = String.ofList (['\''] ++ (text.toList ++ ['\''])) := by
    apply String.toList_injective
    simp
  rw [chars, bared, String.ofList_toList]

/-- A mark before the quotes keeps the first quote in place. -/
theorem bareType_marked (nonempty : text ≠ "") : ModuleTypes.bareType ("u" ++ ("'" ++ text ++ "'")) = "u'" ++ text := by
  have bared : ModuleTypes.bareType (String.ofList ([] ++ (('u' :: '\'' :: text.toList) ++ ['\'']))) =
      String.ofList ('u' :: '\'' :: text.toList) := by
    apply bareType_enclosed
    · simp
    · simp
    · have mark : isBlank 'u'.toNat = false ∧ isBlank '\''.toNat = false := by decide
      refine List.forall_mem_cons.2 ⟨mark.1, List.forall_mem_cons.2 ⟨mark.2, ?_⟩⟩
      exact fun c inText => unblank_of_isInert (inert c inText)
    · intro c first
      cases first
      decide
    · intro c last
      obtain ⟨start, behind, chars⟩ := List.exists_cons_of_ne_nil (mt String.toList_eq_nil_iff.1 nonempty)
      have inText : c ∈ text.toList := by
        rw [chars, List.getLast?_cons_cons, List.getLast?_cons_cons] at last
        rw [chars]
        exact List.mem_of_getLast? last
      exact ne_quote_of_isInert (inert c inText)
  have chars : "u" ++ ("'" ++ text ++ "'") = String.ofList ([] ++ (('u' :: '\'' :: text.toList) ++ ['\''])) := by
    apply String.toList_injective
    simp
  rw [chars, bared]
  apply String.toList_injective
  simp

theorem print_constant (pos : Source.Position) (marked : Bool) :
    (Expr.constant pos (.str (CodePoints.ofString text) marked)).print =
      .ok (if marked then "u" ++ ("'" ++ text ++ "'") else "'" ++ text ++ "'") := by
  rw [← quoted_of_inert inert, Expr.print, Expr.printAt]
  rfl

end Inert

end Texts

section Meanings

variable {e : Expr} {root rest : String} {types : ModuleTypes}

theorem not_mem_dynamicSpellings_of_quote {text : String} (quote : '\'' ∈ text.toList) : text ∉ dynamicSpellings := by
  have clean : ∀ spelling ∈ dynamicSpellings, '\'' ∉ spelling.toList := by decide
  exact fun listed => clean text listed quote

theorem ne_dynamicType_of_quote {text : String} (quote : '\'' ∈ text.toList) : text ≠ dynamicType := by
  rintro rfl
  exact not_mem_dynamicSpellings_of_quote quote (by decide)

/-- A resolved chain and its resolved text are the dynamic type together. They differ only where the root stands for
nothing, and neither is the dynamic type then. -/
theorem DottedName.resolveText_mem_iff (chain : DottedName e root rest) :
    types.resolveText (root ++ rest) ∈ dynamicSpellings ↔ fullName types.imports e ∈ dynamicSpellings := by
  rw [resolveText_append chain.undotted chain.rest_cases, chain.fullName_eq]
  by_cases nameless : (types.imports.get? root).getD root = ""
  · have absent : rest ∉ dynamicSpellings := by
      have begun : ∀ spelling ∈ dynamicSpellings, spelling ≠ "" ∧ spelling.toList.head? ≠ some '.' := by decide
      intro listed
      rcases chain.rest_cases with rfl | ⟨more, -, rfl⟩
      · exact (begun "" listed).1 rfl
      · exact (begun _ listed).2 (by simp)
    rw [if_pos nameless, nameless, String.empty_append]
    exact iff_of_false absent (by decide)
  · rw [if_neg nameless]

theorem DottedName.meansDynamic_iff (chain : DottedName e root rest) :
    types.meansDynamic (some (root ++ rest)) = true ↔
      root ++ rest = dynamicType ∨ root ++ rest ∈ types.dynamicAliases ∨
        fullName types.imports e ∈ dynamicSpellings := by
  rw [Typing.meansDynamic_iff (bareType_of_inert chain.inert) chain.text_ne_empty, chain.resolveText_mem_iff]

theorem DottedName.meansDynamic_quoted_iff (chain : DottedName e root rest) :
    types.meansDynamic (some ("'" ++ (root ++ rest) ++ "'")) = true ↔
      root ++ rest ∈ types.dynamicAliases ∨ fullName types.imports e ∈ dynamicSpellings := by
  have nonempty : "'" ++ (root ++ rest) ++ "'" ≠ "" := by simp
  have other : "'" ++ (root ++ rest) ++ "'" ≠ dynamicType := ne_dynamicType_of_quote (by simp)
  rw [Typing.meansDynamic_iff (bareType_quoted chain.inert) nonempty, chain.resolveText_mem_iff]
  exact or_iff_right other

/-- No name that is imported or bound to the dynamic type has a quote in it. -/
def ModuleTypes.Unquoted (types : ModuleTypes) : Prop :=
  (∀ name ∈ types.dynamicAliases, '\'' ∉ name.toList) ∧ ∀ entry ∈ types.imports.entries, '\'' ∉ entry.1.toList

theorem exists_boundBy_of_aliasesDynamic {m : Module} {name : String} (aliased : aliasesDynamic m name = true) :
    ∃ s ∈ m.body, name ∈ boundBy (.stmt s) := by
  obtain ⟨s, listed, binds⟩ := List.any_eq_true.1 aliased
  obtain ⟨bound, found, same⟩ := (Option.any_eq_true _ _).1 binds
  obtain ⟨named, -⟩ := Bool.and_eq_true_iff.1 same
  refine ⟨s, listed, List.mem_append_right _ ?_⟩
  simp only [found, Option.map_some, beq_iff_eq.1 named]
  exact List.mem_singleton_self name

theorem ModuleTypes.unquoted_of_soundNode {m : Module} (gathered : ModuleTypes.ofModule m = .ok types)
    (sound : ∀ node ∈ NodeTree.nodesByLevel m.tree, SoundNode node) : types.Unquoted := by
  constructor
  · intro name aliased
    rw [← List.contains_iff_mem, ModuleTypes.contains_dynamicAliases gathered] at aliased
    obtain ⟨s, listed, bound⟩ := exists_boundBy_of_aliasesDynamic aliased
    exact sound (.stmt s) (Module.stmt_mem_nodesByLevel listed) name bound
  · intro entry listed
    rw [ModuleTypes.ofModule_imports gathered] at listed
    rcases Bindings.mem_entries_insertAll listed with before | imported
    · cases before
    · obtain ⟨node, occurs, bound⟩ := List.mem_flatMap.1 imported
      exact sound node occurs entry.1 (List.mem_append_left _ (List.mem_map_of_mem bound))

theorem ModuleTypes.unquoted_of_parseSource {bytes : List UInt8} {m : Module}
    (parsed : Audit.parseSource bytes = .ok m) (gathered : ModuleTypes.ofModule m = .ok types) : types.Unquoted := by
  unfold Audit.parseSource at parsed
  split at parsed
  · cases parsed
  · split at parsed <;> cases parsed
    rename_i read
    exact unquoted_of_soundNode gathered fun node occurs => Source.soundNode_of_parseBytes read occurs

theorem ModuleTypes.Unquoted.get?_eq_none (unquoted : types.Unquoted) {name : String} (quote : '\'' ∈ name.toList) :
    types.imports.get? name = none := by
  have absent : types.imports.entries.find? (fun entry => entry.1 == name) = none := by
    apply List.find?_eq_none.2
    intro entry listed same
    rw [← beq_iff_eq.1 same] at quote
    exact unquoted.2 entry listed quote
  rw [Bindings.get?, absent, Option.map_none]

/-- With a mark, the first quote stays in the name at the root, and no module binds such a name. -/
theorem DottedName.not_meansDynamic_marked (chain : DottedName e root rest) (unquoted : types.Unquoted) :
    types.meansDynamic (some ("u" ++ ("'" ++ (root ++ rest) ++ "'"))) = false := by
  have nonempty : "u" ++ ("'" ++ (root ++ rest) ++ "'") ≠ "" := by simp
  have other : "u" ++ ("'" ++ (root ++ rest) ++ "'") ≠ dynamicType := ne_dynamicType_of_quote (by simp)
  have quote : '\'' ∈ ("u'" ++ root).toList := by simp
  have undotted : '.' ∉ ("u'" ++ root).toList := by simpa using chain.undotted
  have resolved : types.resolveText ("u'" ++ (root ++ rest)) = "u'" ++ (root ++ rest) := by
    rw [← String.append_assoc, resolveText_append undotted chain.rest_cases, unquoted.get?_eq_none quote,
      Option.getD_none]
  rw [Bool.eq_false_iff, Ne, Typing.meansDynamic_iff (bareType_marked chain.inert chain.text_ne_empty) nonempty,
    resolved]
  rintro (same | aliased | spelled)
  · exact other same
  · exact unquoted.1 _ aliased (by simp)
  · exact not_mem_dynamicSpellings_of_quote (by simp) spelled

/-- So no module that was read takes a marked name for the dynamic type. -/
theorem DottedName.not_meansDynamic_of_parseSource (chain : DottedName e root rest) {bytes : List UInt8} {m : Module}
    (parsed : Audit.parseSource bytes = .ok m) (gathered : ModuleTypes.ofModule m = .ok types) :
    types.meansDynamic (some ("u" ++ ("'" ++ (root ++ rest) ++ "'"))) = false :=
  chain.not_meansDynamic_marked (ModuleTypes.unquoted_of_parseSource parsed gathered)

end Meanings

/-- Whether a dotted name means the dynamic type can be read off the chain, for its text and for its text in quotes.
With a mark before the quotes it never does. -/
theorem dotted_name_dynamic_iff (types : ModuleTypes) {e : Expr} {root rest : String} (chain : DottedName e root rest) :
    e.print = .ok (root ++ rest) ∧
      (types.meansDynamic (some (root ++ rest)) = true ↔
        root ++ rest = dynamicType ∨ root ++ rest ∈ types.dynamicAliases ∨
          fullName types.imports e ∈ dynamicSpellings) ∧
      ∀ pos,
        (∃ text, (Expr.constant pos (.str (CodePoints.ofString (root ++ rest)) false)).print = .ok text ∧
          (types.meansDynamic (some text) = true ↔
            root ++ rest ∈ types.dynamicAliases ∨ fullName types.imports e ∈ dynamicSpellings)) ∧
        ∃ text, (Expr.constant pos (.str (CodePoints.ofString (root ++ rest)) true)).print = .ok text ∧
          (types.Unquoted → types.meansDynamic (some text) = false) := by
  refine ⟨chain.printAt false .test, chain.meansDynamic_iff, fun pos => ⟨?_, ?_⟩⟩
  · exact ⟨_, print_constant chain.inert pos false, chain.meansDynamic_quoted_iff⟩
  · exact ⟨_, print_constant chain.inert pos true, chain.not_meansDynamic_marked⟩

def importingModule : Module := ⟨[.importNames ⟨1, 0⟩ [⟨⟨1, 7⟩, "typing", some "t"⟩]]⟩

def importingTypes : ModuleTypes := .ofImports ⟨[("t", "typing")]⟩

theorem importingTypes_mean_dynamic :
    (∃ text, (Expr.constant ⟨1, 3⟩ (.str (CodePoints.ofString "t.Any") false)).print = .ok text ∧
      importingTypes.meansDynamic (some text) = true) ∧
    (∃ text, (Expr.constant ⟨1, 3⟩ (.str (CodePoints.ofString "t.Any") true)).print = .ok text ∧
      importingTypes.meansDynamic (some text) = false) ∧
    importingTypes.meansDynamic (some "t.Any") = true ∧ importingTypes.meansDynamic (some "t.Any.Any") = false := by
  have gathered : ModuleTypes.ofModule importingModule = .ok importingTypes := by with_unfolding_all rfl
  have unquoted := ModuleTypes.unquoted_of_soundNode gathered (by decide +kernel)
  have inner : DottedName (.attribute ⟨1, 3⟩ (.name ⟨1, 3⟩ "t" .load) "Any" .load) "t" ".Any" :=
    .member (.name rfl) rfl
  have outer : DottedName (.attribute ⟨1, 3⟩ (.attribute ⟨1, 3⟩ (.name ⟨1, 3⟩ "t" .load) "Any" .load) "Any" .load) "t"
      ".Any.Any" := .member inner rfl
  obtain ⟨-, plain, quotes⟩ := dotted_name_dynamic_iff importingTypes inner
  obtain ⟨⟨text, printed, quoted⟩, marked, markPrinted, silent⟩ := quotes ⟨1, 3⟩
  obtain ⟨-, longer, -⟩ := dotted_name_dynamic_iff importingTypes outer
  refine ⟨⟨text, printed, quoted.2 (.inr (by decide))⟩, ⟨marked, markPrinted, silent unquoted⟩,
    plain.2 (.inr (.inr (by decide))), ?_⟩
  rw [Bool.eq_false_iff]
  intro dynamic
  have taken := longer.1 dynamic
  revert taken
  decide

def markedAnnotation : List UInt8 :=
  "from typing import Any\nJSON = Any\nclass A:\n x: u'JSON' = 1\n".toUTF8.toList

def hidesAlias (types : ModuleTypes) (name : String) : Node → Bool
  | .stmt (.annAssign _ _ (.constant pos (.str text true)) _) =>
    types.dynamicAliases.contains name && text == CodePoints.ofString name &&
      (Expr.constant pos (.str text true)).print.toOption.any fun printed => !types.meansDynamic (some printed)
  | _ => false

theorem marked_annotation_unreported :
    ∃ m, Audit.parseSource markedAnnotation = .ok m ∧
      ((ModuleTypes.ofModule m).toOption.any fun types => m.tree.nodesByLevel.any (hidesAlias types "JSON")) = true ∧
      (Audit.auditUnit (Audit.RuleSet.standard []) "unit.py" (.ok markedAnnotation)).value =
        .ok (.ok ⟨"unit.py", []⟩) := by
  apply exists_ok_of_map
  decide +kernel

end TypingAudit.Typing
