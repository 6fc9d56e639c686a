import Mathlib
import TypingAudit.Selection.Exclusion

/-!
What decides whether a file is left out. Its name is cut at slashes and backslashes, and pieces that are empty or a
single dot do not count. Of the segments that are left, those before the last tell a dependency, the last alone tells a
test or a generated file, and the patterns see the last and the whole joined again. How the name was written does not
matter beyond that, and more patterns only leave out more.
-/

namespace TypingAudit.Text

theorem splitWhere_eq_splitOnP (separates : Char → Bool) (text : List Char) :
    splitWhere separates text = text.splitOnP separates := by
  induction text with
  | nil => rw [List.splitOnP_nil, splitWhere]
  | cons c text ih =>
    rw [splitWhere, List.splitOnP_cons_eq_if_modifyHead, ih]
    by_cases cut : separates c = true
    · rw [if_pos cut, if_pos cut]
    · rw [if_neg cut, if_neg cut]
      obtain ⟨piece, pieces, whole⟩ := List.exists_cons_of_ne_nil (List.splitOnP_ne_nil separates text)
      rw [whole, List.modifyHead_cons]

theorem occursIn_iff (part text : List Char) : occursIn part text = true ↔ part <:+: text := by
  induction text with
  | nil => rw [occursIn, List.isEmpty_iff, List.infix_nil]
  | cons c text ih => rw [occursIn, Bool.or_eq_true, ih, List.isPrefixOf_iff_prefix, List.infix_cons_iff]

end TypingAudit.Text

namespace TypingAudit.Selection

open Audit Storage Text

def isSeparator (c : Char) : Bool := c == '/' || c == '\\'

/-- What stands between the separators of a name, but neither nothing nor a single dot. -/
def segmentsIn (unitPath : String) : List String :=
  ((unitPath.toList.splitOnP isSeparator).map String.ofList).filter fun s => s != "" && s != "."

/-- The root that a name starts with: none, one of exactly two separators, or any other. -/
def rootIn (unitPath : String) : String :=
  let leading := (unitPath.toList.takeWhile isSeparator).length
  if leading = 0 then "" else if leading = 2 then "//" else "/"

def lastOf (segments : List String) : String := segments.getLast?.getD ""

def joined (root : String) (segments : List String) : String :=
  if root = "" ∧ segments = [] then "." else root ++ "/".intercalate segments

/-- Some segment other than the last is the name of a directory with the code of others. -/
def IsDependency (segments : List String) : Prop := ∃ s ∈ segments.dropLast, s ∈ dependencyDirectories

def IsTest (name : String) : Prop :=
  name = "conftest.py" ∨ (∃ rest, name = "test_" ++ rest) ∨ (∃ start, name = start ++ "_test.py") ∨
    ∃ start rest, name = start ++ ".test." ++ rest

def IsGenerated (name : String) : Prop :=
  (∃ start, name = start ++ "_pb2.py") ∨ ∃ start, name = start ++ "_pb2_grpc.py"

structure IsOrdinary (segments : List String) : Prop where
  own : ¬IsDependency segments
  noTest : ¬IsTest (lastOf segments)
  written : ¬IsGenerated (lastOf segments)

def Fits (covers : String → String → Bool) (root : String) (segments : List String) (pattern : String) : Prop :=
  covers pattern (joined root segments) = true ∨ covers pattern (lastOf segments) = true

/-- The first of the patterns that fits. -/
def FirstToFit (covers : String → String → Bool) (root : String) (segments patterns : List String)
    (pattern : String) : Prop :=
  ∃ before after, patterns = before ++ pattern :: after ∧ Fits covers root segments pattern ∧
    ∀ earlier ∈ before, ¬Fits covers root segments earlier

/-- The reason to leave out a file with the given root and segments, or none. -/
structure Decides (covers : String → String → Bool) (patterns : List String) (root : String) (segments : List String)
    (reason : Option String) : Prop where
  dependency : reason = some "dependency" ↔ IsDependency segments
  test : reason = some "test" ↔ ¬IsDependency segments ∧ IsTest (lastOf segments)
  generated : reason = some "generated" ↔
    ¬IsDependency segments ∧ ¬IsTest (lastOf segments) ∧ IsGenerated (lastOf segments)
  matching : ∀ pattern, reason = some ("pattern " ++ pattern) ↔
    IsOrdinary segments ∧ FirstToFit covers root segments patterns pattern
  kept : reason = none ↔ IsOrdinary segments ∧ ∀ pattern ∈ patterns, ¬Fits covers root segments pattern

section Reading

theorem prefix_toList_iff (part name : String) : part.toList <+: name.toList ↔ ∃ rest, name = part ++ rest := by
  constructor
  · intro starts
    obtain ⟨rest, whole⟩ := starts
    exact ⟨String.ofList rest, String.toList_injective (by simp [whole])⟩
  · intro starts
    obtain ⟨rest, rfl⟩ := starts
    exact ⟨rest.toList, String.toList_append.symm⟩

theorem suffix_toList_iff (part name : String) : part.toList <:+ name.toList ↔ ∃ start, name = start ++ part := by
  constructor
  · intro ends
    obtain ⟨start, whole⟩ := ends
    exact ⟨String.ofList start, String.toList_injective (by simp [whole])⟩
  · intro ends
    obtain ⟨start, rfl⟩ := ends
    exact ⟨start.toList, String.toList_append.symm⟩

theorem infix_toList_iff (part name : String) :
    part.toList <:+: name.toList ↔ ∃ start rest, name = start ++ part ++ rest := by
  constructor
  · intro occurs
    obtain ⟨start, rest, whole⟩ := occurs
    exact ⟨String.ofList start, String.ofList rest, String.toList_injective (by simp [← whole])⟩
  · intro occurs
    obtain ⟨start, rest, rfl⟩ := occurs
    exact ⟨start.toList, rest.toList, by simp⟩

theorem isTestName_iff (name : String) : isTestName name = true ↔ IsTest name := by
  rw [isTestName, Bool.or_eq_true, Bool.or_eq_true, Bool.or_eq_true, beq_iff_eq, List.isPrefixOf_iff_prefix,
    List.isSuffixOf_iff_suffix, occursIn_iff, prefix_toList_iff, suffix_toList_iff, infix_toList_iff, IsTest,
    or_assoc, or_assoc]

theorem isGeneratedName_iff (name : String) : isGeneratedName name = true ↔ IsGenerated name := by
  rw [isGeneratedName, Bool.or_eq_true, List.isSuffixOf_iff_suffix, List.isSuffixOf_iff_suffix, suffix_toList_iff,
    suffix_toList_iff, IsGenerated]

theorem slash_iff_isSeparator (c : Char) : ((if c = '\\' then '/' else c) == '/') = isSeparator c := by
  by_cases back : c = '\\'
  · simp [isSeparator, back]
  · simp [isSeparator, back]

/-- No piece has a separator, so turning backslashes into slashes changes none of them. -/
theorem splitOnP_slashes (text : List Char) :
    (text.map fun c => if c = '\\' then '/' else c).splitOnP (· == '/') = text.splitOnP isSeparator := by
  induction text with
  | nil => rw [List.map_nil, List.splitOnP_nil, List.splitOnP_nil]
  | cons c text ih =>
    rw [List.map_cons, List.splitOnP_cons_eq_if_modifyHead, List.splitOnP_cons_eq_if_modifyHead, ih,
      slash_iff_isSeparator]
    by_cases cut : isSeparator c = true
    · rw [if_pos cut, if_pos cut]
    · have kept : c ≠ '\\' := by
        intro back
        exact cut (by simp [isSeparator, back])
      rw [if_neg cut, if_neg cut, if_neg kept]

variable (unitPath : String)

theorem unitSegments_segments : (unitSegments unitPath).segments = segmentsIn unitPath := by
  unfold unitSegments Path.ofString
  dsimp only
  rw [String.toList_ofList, Path.segmentsOf, splitWhere_eq_splitOnP, splitOnP_slashes, segmentsIn]

theorem text_ofSlashes (n : Nat) : (Anchor.ofSlashes n).text = if n = 0 then "" else if n = 2 then "//" else "/" := by
  rcases n with _ | _ | _ | n <;> rfl

theorem unitSegments_anchor_text : (unitSegments unitPath).anchor.text = rootIn unitPath := by
  have counted : ((unitPath.toList.map fun c => if c = '\\' then '/' else c).takeWhile (· == '/')).length =
      (unitPath.toList.takeWhile isSeparator).length := by
    rw [List.takeWhile_map, List.length_map]
    congr 2
    funext c
    exact slash_iff_isSeparator c
  unfold unitSegments Path.ofString
  dsimp only
  rw [String.toList_ofList, counted, text_ofSlashes, rootIn]

theorem unitSegments_name : (unitSegments unitPath).name = lastOf (segmentsIn unitPath) := by
  rw [Path.name, unitSegments_segments, lastOf]

theorem unitSegments_text : (unitSegments unitPath).text = joined (rootIn unitPath) (segmentsIn unitPath) := by
  have rootless : (unitSegments unitPath).anchor = .here ↔ (unitSegments unitPath).anchor.text = "" := by
    cases (unitSegments unitPath).anchor <;> decide
  simp only [Path.text, rootless, unitSegments_anchor_text, unitSegments_segments, joined]

end Reading

section Deciding

variable {covers : String → String → Bool} {unitPath : String} (patterns : List String)

theorem exclusionBy_eq :
    exclusionBy covers patterns unitPath =
      if (segmentsIn unitPath).dropLast.any dependencyDirectories.contains then some .dependency
      else if isTestName (lastOf (segmentsIn unitPath)) then some .test
      else if isGeneratedName (lastOf (segmentsIn unitPath)) then some .generated
      else (patterns.find? fun pattern => covers pattern (joined (rootIn unitPath) (segmentsIn unitPath)) ||
        covers pattern (lastOf (segmentsIn unitPath))).map .matching := by
  unfold exclusionBy
  dsimp only
  rw [unitSegments_segments, unitSegments_name, unitSegments_text]

theorem dependency_iff (segments : List String) :
    segments.dropLast.any dependencyDirectories.contains = true ↔ IsDependency segments := by
  rw [List.any_eq_true, IsDependency]
  simp only [List.contains_iff_mem]

theorem exclusionBy_of_dependency (dependency : IsDependency (segmentsIn unitPath)) :
    exclusionBy covers patterns unitPath = some .dependency := by
  rw [exclusionBy_eq, if_pos ((dependency_iff _).2 dependency)]

theorem exclusionBy_of_test (own : ¬IsDependency (segmentsIn unitPath)) (test : IsTest (lastOf (segmentsIn unitPath))) :
    exclusionBy covers patterns unitPath = some .test := by
  rw [exclusionBy_eq, if_neg (mt (dependency_iff _).1 own), if_pos ((isTestName_iff _).2 test)]

theorem exclusionBy_of_generated (own : ¬IsDependency (segmentsIn unitPath))
    (noTest : ¬IsTest (lastOf (segmentsIn unitPath))) (generated : IsGenerated (lastOf (segmentsIn unitPath))) :
    exclusionBy covers patterns unitPath = some .generated := by
  rw [exclusionBy_eq, if_neg (mt (dependency_iff _).1 own), if_neg (mt (isTestName_iff _).1 noTest),
    if_pos ((isGeneratedName_iff _).2 generated)]

theorem exclusionBy_of_ordinary (ordinary : IsOrdinary (segmentsIn unitPath)) :
    exclusionBy covers patterns unitPath =
      (patterns.find? fun pattern => covers pattern (joined (rootIn unitPath) (segmentsIn unitPath)) ||
        covers pattern (lastOf (segmentsIn unitPath))).map .matching := by
  rw [exclusionBy_eq, if_neg (mt (dependency_iff _).1 ordinary.own), if_neg (mt (isTestName_iff _).1 ordinary.noTest),
    if_neg (mt (isGeneratedName_iff _).1 ordinary.written)]

theorem find?_eq_some_iff_firstToFit (root : String) (segments : List String) (pattern : String) :
    (patterns.find? fun p => covers p (joined root segments) || covers p (lastOf segments)) = some pattern ↔
      FirstToFit covers root segments patterns pattern := by
  rw [List.find?_eq_some_iff_append]
  constructor
  · intro taken
    obtain ⟨fits, before, after, whole, passed⟩ := taken
    refine ⟨before, after, whole, Bool.or_eq_true_iff.1 fits, ?_⟩
    intro earlier member
    simpa [Fits] using passed earlier member
  · intro first
    obtain ⟨before, after, whole, fits, passed⟩ := first
    refine ⟨Bool.or_eq_true_iff.2 fits, before, after, whole, ?_⟩
    intro earlier member
    simpa [Fits] using passed earlier member

theorem reason_injective : Function.Injective Exclusion.reason := by
  intro e e' same
  -- The text that names a pattern begins with a letter which none of the others begins with.
  have initial : e.reason.toList.head? = e'.reason.toList.head? := by rw [same]
  cases e <;> cases e' <;> simp [Exclusion.reason] at initial same ⊢
  exact same

theorem map_reason_eq_some_iff (why : Option Exclusion) (e : Exclusion) :
    why.map Exclusion.reason = some e.reason ↔ why = some e := by
  rw [← Option.map_some, (Option.map_injective reason_injective).eq_iff]

theorem segments_cases (segments : List String) :
    IsDependency segments ∨ ¬IsDependency segments ∧ IsTest (lastOf segments) ∨
      (¬IsDependency segments ∧ ¬IsTest (lastOf segments) ∧ IsGenerated (lastOf segments)) ∨ IsOrdinary segments := by
  by_cases dependency : IsDependency segments
  · exact .inl dependency
  · by_cases test : IsTest (lastOf segments)
    · exact .inr (.inl ⟨dependency, test⟩)
    · by_cases generated : IsGenerated (lastOf segments)
      · exact .inr (.inr (.inl ⟨dependency, test, generated⟩))
      · exact .inr (.inr (.inr ⟨dependency, test, generated⟩))

theorem Decides.of_exclusion {root : String} {segments : List String} {why : Option Exclusion}
    (dependency : why = some .dependency ↔ IsDependency segments)
    (test : why = some .test ↔ ¬IsDependency segments ∧ IsTest (lastOf segments))
    (generated : why = some .generated ↔
      ¬IsDependency segments ∧ ¬IsTest (lastOf segments) ∧ IsGenerated (lastOf segments))
    (matching : ∀ pattern, why = some (.matching pattern) ↔
      IsOrdinary segments ∧ FirstToFit covers root segments patterns pattern)
    (kept : why = none ↔ IsOrdinary segments ∧ ∀ pattern ∈ patterns, ¬Fits covers root segments pattern) :
    Decides covers patterns root segments (why.map Exclusion.reason) where
  dependency := (map_reason_eq_some_iff why .dependency).trans dependency
  test := (map_reason_eq_some_iff why .test).trans test
  generated := (map_reason_eq_some_iff why .generated).trans generated
  matching pattern := (map_reason_eq_some_iff why (.matching pattern)).trans (matching pattern)
  kept := Option.map_eq_none_iff.trans kept

variable (covers unitPath)

theorem decides_exclusionBy :
    Decides covers patterns (rootIn unitPath) (segmentsIn unitPath)
      ((exclusionBy covers patterns unitPath).map Exclusion.reason) := by
  rcases segments_cases (segmentsIn unitPath) with dependency | ⟨own, test⟩ | ⟨own, noTest, generated⟩ | ordinary
  · have other : ¬IsOrdinary (segmentsIn unitPath) := fun ordinary => ordinary.own dependency
    rw [exclusionBy_of_dependency patterns dependency]
    apply Decides.of_exclusion <;> simp [dependency, other]
  · have other : ¬IsOrdinary (segmentsIn unitPath) := fun ordinary => ordinary.noTest test
    rw [exclusionBy_of_test patterns own test]
    apply Decides.of_exclusion <;> simp [own, test, other]
  · have other : ¬IsOrdinary (segmentsIn unitPath) := fun ordinary => ordinary.written generated
    rw [exclusionBy_of_generated patterns own noTest generated]
    apply Decides.of_exclusion <;> simp [own, noTest, generated, other]
  · obtain ⟨own, noTest, written⟩ := id ordinary
    rw [exclusionBy_of_ordinary patterns ordinary]
    apply Decides.of_exclusion
    · simp [own]
    · simp [noTest]
    · simp [written]
    · intro pattern
      rw [← find?_eq_some_iff_firstToFit, and_iff_right ordinary]
      simp
    · simp [ordinary, Fits]

theorem exclusionBy_append (more : List String) :
    exclusionBy covers (patterns ++ more) unitPath =
      (exclusionBy covers patterns unitPath).or (exclusionBy covers more unitPath) := by
  rcases segments_cases (segmentsIn unitPath) with dependency | ⟨own, test⟩ | ⟨own, noTest, generated⟩ | ordinary
  · rw [exclusionBy_of_dependency _ dependency, exclusionBy_of_dependency _ dependency, Option.some_or]
  · rw [exclusionBy_of_test _ own test, exclusionBy_of_test _ own test, Option.some_or]
  · rw [exclusionBy_of_generated _ own noTest generated, exclusionBy_of_generated _ own noTest generated,
      Option.some_or]
  · rw [exclusionBy_of_ordinary _ ordinary, exclusionBy_of_ordinary _ ordinary, exclusionBy_of_ordinary _ ordinary,
      List.find?_append, Option.map_or]

variable {unitPath}

theorem exclusionBy_of_same_segments {other : String} (segments : segmentsIn other = segmentsIn unitPath)
    (root : rootIn other = rootIn unitPath) :
    exclusionBy covers patterns other = exclusionBy covers patterns unitPath := by
  rw [exclusionBy_eq, exclusionBy_eq, segments, root]

theorem leavesOut_append (more : List String) (unitPath : String) :
    leavesOut (patterns ++ more) unitPath = (leavesOut patterns unitPath || leavesOut more unitPath) := by
  rw [leavesOut, exclusion?, exclusionBy_append, Option.isSome_or]
  rfl

end Deciding

/-- Whether and why a file is left out is read off its root and its segments, for any way of matching patterns. Names
with the same ones share their fate, and patterns that are put at the end change no reason and bring no file back. -/
theorem exclusion_decided_by_segments (covers : String → String → Bool) (patterns : List String) (unitPath : String) :
    Decides covers patterns (rootIn unitPath) (segmentsIn unitPath)
        ((exclusionBy covers patterns unitPath).map Exclusion.reason) ∧
      (∀ other, segmentsIn other = segmentsIn unitPath → rootIn other = rootIn unitPath →
        exclusionBy covers patterns other = exclusionBy covers patterns unitPath) ∧
      (∀ more why, exclusionBy covers patterns unitPath = some why →
        exclusionBy covers (patterns ++ more) unitPath = some why) ∧
      ∀ more units, (keepUnits (patterns ++ more) units).value =
        (keepUnits patterns units).value.filter fun u => !leavesOut more u.unitPath := by
  refine ⟨decides_exclusionBy covers unitPath patterns, ?_, ?_, ?_⟩
  · intro other segments root
    exact exclusionBy_of_same_segments covers patterns segments root
  · intro more why excluded
    rw [exclusionBy_append, excluded, Option.some_or]
  · intro more units
    change units.filter _ = (units.filter _).filter _
    rw [List.filter_filter]
    apply List.filter_congr
    intro u _
    rw [leavesOut_append, Bool.not_or, Bool.and_comm]

theorem roundabout_name_excluded :
    segmentsIn ".\\src//./a.py" = segmentsIn "src/a.py" ∧ rootIn ".\\src//./a.py" = rootIn "src/a.py" ∧
      exclusionBy (· == ·) ["lib", "src/a.py"] ".\\src//./a.py" = some (.matching "src/a.py") ∧
      exclusionBy (· == ·) (["lib", "src/a.py"] ++ ["a.py"]) "src/a.py" = some (.matching "src/a.py") := by
  have segments : segmentsIn ".\\src//./a.py" = segmentsIn "src/a.py" := by decide
  have root : rootIn ".\\src//./a.py" = rootIn "src/a.py" := by decide
  have excluded : exclusionBy (· == ·) ["lib", "src/a.py"] "src/a.py" = some (.matching "src/a.py") := by decide
  obtain ⟨-, alike, stays, -⟩ := exclusion_decided_by_segments (· == ·) ["lib", "src/a.py"] "src/a.py"
  exact ⟨segments, root, (alike _ segments root).trans excluded, stays ["a.py"] _ excluded⟩

end TypingAudit.Selection
