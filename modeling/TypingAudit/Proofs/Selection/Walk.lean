import TypingAudit.Proofs.NameOrder
import TypingAudit.Proofs.Storage.Trees
import TypingAudit.Selection.Sources

/-!
The walk through a directory. Its result is told by the ways from the directory to the files: a way is taken
when it ends at a source file and enters no directory that is to be skipped, and the ways stand in a strict
order of their names, in which a file of a directory comes before anything in a directory below it.
-/

namespace TypingAudit.Selection

open Storage

def IsSource (name : String) : Prop := ∃ stem : String, stem ≠ "" ∧ name = stem ++ ".py"

theorem isSourceName_iff (name : String) : isSourceName name = true ↔ IsSource name := by
  have three : ".py".length = 3 := by decide
  rw [isSourceName, Bool.and_eq_true, decide_eq_true_eq, List.isSuffixOf_iff_suffix]
  constructor
  · rintro ⟨⟨stem, split⟩, long⟩
    have whole : name = String.ofList stem ++ ".py" := by
      apply String.toList_injective
      rw [← split, String.toList_append, String.toList_ofList (l := stem)]
    refine ⟨String.ofList stem, ?_, whole⟩
    intro empty
    rw [whole, empty, String.length_append, three] at long
    simp at long
  · rintro ⟨stem, nonempty, rfl⟩
    refine ⟨⟨stem.toList, (String.toList_append ..).symm⟩, ?_⟩
    have positive : 0 < stem.length := by
      rw [Nat.pos_iff_ne_zero, ne_eq, String.length_eq_zero_iff]
      exact nonempty
    rw [String.length_append, three]
    omega

def extend (p : Path) (way : List String) : Path := ⟨p.anchor, p.segments ++ way⟩

theorem child_extend (p : Path) (name : String) (way : List String) :
    extend (p.child name) way = extend p (name :: way) := by
  simp [extend, Path.child]

def isOwn (e : String × FileTree) : Bool := e.2.isFile && isSourceName e.1

def isEntered (e : String × FileTree) : Bool := !(e.2.isFile || skippedDirectories.contains e.1)

theorem inNameOrder_map {α β : Type} (items : List (String × α)) (value : String × α → β) :
    inNameOrder (items.map fun e => (e.1, value e)) = (inNameOrder items).map fun e => (e.1, value e) := by
  symm
  exact List.map_mergeSort fun _ _ _ _ => rfl

theorem mem_inNameOrder {α : Type} {items : List (String × α)} {e : String × α} :
    e ∈ inNameOrder items ↔ e ∈ items :=
  List.mem_mergeSort

theorem sourcesInside_eq (p : Path) (entries : List (String × FileTree)) :
    sourcesInside p entries =
      (entries.filter isEntered).map fun e => (e.1, sourcesBelow (p.child e.1) e.2) := by
  induction entries with
  | nil => simp [sourcesInside]
  | cons entry entries ih =>
    obtain ⟨name, node⟩ := entry
    rw [sourcesInside, ih]
    by_cases passed : (node.isFile || skippedDirectories.contains name) = true
    · have notEntered : ¬isEntered (name, node) = true := by simp only [isEntered, passed]; decide
      rw [if_pos passed, List.filter_cons_of_neg notEntered]
    · have entered : isEntered (name, node) = true := by
        simp only [isEntered, Bool.not_eq_true] at passed ⊢
        rw [passed]
        rfl
      rw [if_neg passed, List.filter_cons_of_pos entered, List.map_cons]

/-- A directory is gone through in two rounds, both by name: its source files, and the directories in it. -/
theorem sourcesBelow_directory (p : Path) (entries : List (String × FileTree)) :
    sourcesBelow p (.directory entries) =
      (inNameOrder (entries.filter isOwn)).map (fun e => p.child e.1) ++
        (inNameOrder (entries.filter isEntered)).flatMap fun e => sourcesBelow (p.child e.1) e.2 := by
  rw [sourcesBelow, sourcesInside_eq, ownSources, inNameOrder_map, inNameOrder_map, List.map_map, List.flatMap_map]
  rfl

def waysBelow (node : FileTree) : List (List String) := (sourcesBelow ⟨.here, []⟩ node).map Path.segments

/-- What is found below a directory does not depend on the path to it. -/
def Relative (node : FileTree) : Prop := ∀ p, sourcesBelow p node = (waysBelow node).map (extend p)

theorem waysBelow_directory_of_relative {entries : List (String × FileTree)}
    (below : ∀ e ∈ entries, Relative e.2) :
    waysBelow (.directory entries) =
      (inNameOrder (entries.filter isOwn)).map (fun e => [e.1]) ++
        (inNameOrder (entries.filter isEntered)).flatMap fun e => (waysBelow e.2).map (e.1 :: ·) := by
  rw [waysBelow, sourcesBelow_directory, List.map_append, List.map_map, List.map_flatMap]
  congr 1
  apply List.flatMap_congr
  intro e entered
  have listed := (List.mem_filter.1 (mem_inNameOrder.1 entered)).1
  rw [below e listed, List.map_map]
  rfl

theorem relative_of_named {good : String → Prop} {node : FileTree} (named : node.Named good) : Relative node := by
  induction named with
  | file content =>
    intro p
    simp [sourcesBelow, waysBelow]
  | directory entries distinct names inside below =>
    intro p
    rw [sourcesBelow_directory, waysBelow_directory_of_relative below, List.map_append, List.map_map,
      List.map_flatMap]
    congr 1
    apply List.flatMap_congr
    intro e entered
    have listed := (List.mem_filter.1 (mem_inNameOrder.1 entered)).1
    rw [below e listed, List.map_map]
    apply List.map_congr_left
    intro way _
    exact child_extend p e.1 way

theorem waysBelow_directory {good : String → Prop} {entries : List (String × FileTree)}
    (named : (FileTree.directory entries).Named good) :
    waysBelow (.directory entries) =
      (inNameOrder (entries.filter isOwn)).map (fun e => [e.1]) ++
        (inNameOrder (entries.filter isEntered)).flatMap fun e => (waysBelow e.2).map (e.1 :: ·) := by
  cases named with
  | directory entries distinct names inside =>
    exact waysBelow_directory_of_relative fun e listed => relative_of_named (inside e listed)

/-- A way that ends at a source file and enters no directory that is to be skipped. -/
structure IsWay (node : FileTree) (way : List String) : Prop where
  isFile : ∃ content, node.get? way = some (.file content)
  isSource : ∃ name, way.getLast? = some name ∧ IsSource name
  entered : ∀ name ∈ way.dropLast, name ∉ skippedDirectories

theorem isWay_singleton {entries : List (String × FileTree)} {name : String} :
    IsWay (.directory entries) [name] ↔ (∃ content, entries.lookup name = some (.file content)) ∧ IsSource name := by
  have found : (FileTree.directory entries).get? [name] = entries.lookup name := by
    rw [FileTree.get?]
    cases entries.lookup name <;> simp
  constructor
  · rintro ⟨isFile, ⟨last, ends, isSource⟩, -⟩
    obtain rfl : name = last := by simpa using ends
    exact ⟨found ▸ isFile, isSource⟩
  · rintro ⟨isFile, isSource⟩
    exact ⟨found ▸ isFile, ⟨name, rfl, isSource⟩, by simp⟩

theorem isWay_cons {entries : List (String × FileTree)} {name : String} {way : List String} (further : way ≠ []) :
    IsWay (.directory entries) (name :: way) ↔
      name ∉ skippedDirectories ∧ ∃ child, entries.lookup name = some child ∧ IsWay child way := by
  have last : (name :: way).getLast? = way.getLast? := List.getLast?_cons_of_ne_nil further
  constructor
  · rintro ⟨⟨content, found⟩, isSource, entered⟩
    rw [FileTree.get?, Option.bind_eq_some_iff] at found
    obtain ⟨child, listed, found⟩ := found
    rw [List.dropLast_cons_of_ne_nil further, List.forall_mem_cons] at entered
    exact ⟨entered.1, child, listed, ⟨content, found⟩, last ▸ isSource, entered.2⟩
  · rintro ⟨notSkipped, child, listed, ⟨⟨content, found⟩, isSource, entered⟩⟩
    refine ⟨⟨content, ?_⟩, last ▸ isSource, ?_⟩
    · rw [FileTree.get?, listed]
      exact found
    · rw [List.dropLast_cons_of_ne_nil further, List.forall_mem_cons]
      exact ⟨notSkipped, entered⟩

theorem IsWay.ne_nil {node : FileTree} {way : List String} (isWay : IsWay node way) : way ≠ [] := by
  rintro rfl
  obtain ⟨name, last, -⟩ := isWay.isSource
  cases last

theorem not_isWay_file {content : List UInt8} {way : List String} : ¬IsWay (.file content) way := by
  intro isWay
  obtain ⟨content', found⟩ := isWay.isFile
  rw [FileTree.get?_file isWay.ne_nil] at found
  cases found

theorem isOwn_iff {name : String} {node : FileTree} :
    isOwn (name, node) = true ↔ (∃ content, node = .file content) ∧ IsSource name := by
  rw [isOwn, Bool.and_eq_true, isSourceName_iff]
  cases node <;> simp [FileTree.isFile]

theorem isEntered_iff {name : String} {node : FileTree} :
    isEntered (name, node) = true ↔ (∀ content, node ≠ .file content) ∧ name ∉ skippedDirectories := by
  cases node <;> simp [isEntered, FileTree.isFile]

section Entries

variable {entries : List (String × FileTree)} (distinct : (entries.map Prod.fst).Nodup)
include distinct

theorem mem_ownWays_iff {way : List String} :
    way ∈ (inNameOrder (entries.filter isOwn)).map (fun e => [e.1]) ↔
      ∃ name, way = [name] ∧ IsWay (.directory entries) [name] := by
  rw [List.mem_map]
  constructor
  · rintro ⟨⟨name, node⟩, own, rfl⟩
    obtain ⟨listed, own⟩ := List.mem_filter.1 (mem_inNameOrder.1 own)
    obtain ⟨⟨content, rfl⟩, isSource⟩ := isOwn_iff.1 own
    exact ⟨name, rfl, isWay_singleton.2 ⟨⟨content, FileTree.lookup_eq_some_of_mem distinct listed⟩, isSource⟩⟩
  · rintro ⟨name, rfl, isWay⟩
    obtain ⟨⟨content, found⟩, isSource⟩ := isWay_singleton.1 isWay
    have listed := FileTree.mem_of_lookup_eq_some found
    have own : isOwn (name, .file content) = true := isOwn_iff.2 ⟨⟨content, rfl⟩, isSource⟩
    exact ⟨(name, .file content), mem_inNameOrder.2 (List.mem_filter.2 ⟨listed, own⟩), rfl⟩

theorem mem_enteredWays_iff (below : ∀ e ∈ entries, ∀ way, way ∈ waysBelow e.2 ↔ IsWay e.2 way)
    {way : List String} :
    way ∈ (inNameOrder (entries.filter isEntered)).flatMap (fun e => (waysBelow e.2).map (e.1 :: ·)) ↔
      ∃ name rest, way = name :: rest ∧ rest ≠ [] ∧ IsWay (.directory entries) (name :: rest) := by
  rw [List.mem_flatMap]
  constructor
  · rintro ⟨⟨name, node⟩, entered, taken⟩
    obtain ⟨listed, entered⟩ := List.mem_filter.1 (mem_inNameOrder.1 entered)
    obtain ⟨rest, onward, rfl⟩ := List.mem_map.1 taken
    have isWay := (below _ listed rest).1 onward
    refine ⟨name, rest, rfl, isWay.ne_nil, (isWay_cons isWay.ne_nil).2 ⟨(isEntered_iff.1 entered).2, node, ?_, isWay⟩⟩
    exact FileTree.lookup_eq_some_of_mem distinct listed
  · rintro ⟨name, rest, rfl, further, isWay⟩
    obtain ⟨notSkipped, child, found, onward⟩ := (isWay_cons further).1 isWay
    have listed := FileTree.mem_of_lookup_eq_some found
    have entered : isEntered (name, child) = true := by
      refine isEntered_iff.2 ⟨?_, notSkipped⟩
      rintro content rfl
      exact not_isWay_file onward
    exact ⟨(name, child), mem_inNameOrder.2 (List.mem_filter.2 ⟨listed, entered⟩),
      List.mem_map.2 ⟨rest, (below _ listed rest).2 onward, rfl⟩⟩

end Entries

/-- Below a directory exactly the ways are taken that the description asks for. -/
theorem mem_waysBelow_iff {good : String → Prop} {node : FileTree} (named : node.Named good) (way : List String) :
    way ∈ waysBelow node ↔ IsWay node way := by
  induction named generalizing way with
  | file content =>
    refine iff_of_false ?_ not_isWay_file
    simp [waysBelow, sourcesBelow]
  | directory entries distinct names inside below =>
    rw [waysBelow_directory (.directory entries distinct names inside), List.mem_append, mem_ownWays_iff distinct,
      mem_enteredWays_iff distinct below]
    constructor
    · rintro (⟨name, rfl, isWay⟩ | ⟨name, rest, rfl, -, isWay⟩) <;> exact isWay
    · intro isWay
      obtain ⟨name, rest, rfl⟩ := List.exists_cons_of_ne_nil isWay.ne_nil
      by_cases ends : rest = []
      · subst ends
        exact .inl ⟨name, rfl, isWay⟩
      · exact .inr ⟨name, rest, rfl, ends, isWay⟩

/-- The order of ways: files before directories, both by name, and then the order further down. -/
inductive Precedes : List String → List String → Prop where
  | files {name other : String} (before : name < other) : Precedes [name] [other]
  | fileFirst (name other : String) {way : List String} (further : way ≠ []) : Precedes [name] (other :: way)
  | directories {name other : String} {way way' : List String} (before : name < other) (further : way ≠ [])
      (further' : way' ≠ []) : Precedes (name :: way) (other :: way')
  | inside (name : String) {way way' : List String} (before : Precedes way way') :
      Precedes (name :: way) (name :: way')

theorem Precedes.left_ne_nil {way way' : List String} (before : Precedes way way') : way ≠ [] := by
  cases before <;> simp

theorem Precedes.right_ne_nil {way way' : List String} (before : Precedes way way') : way' ≠ [] := by
  cases before <;> simp

theorem Precedes.asymm {way way' : List String} (before : Precedes way way') : ¬Precedes way' way := by
  induction before with
  | files before =>
    intro after
    cases after with
    | files after => exact lt_asymm before after
    | fileFirst name other further => exact further rfl
    | directories after further further' => exact further rfl
    | inside name after => exact after.left_ne_nil rfl
  | fileFirst name other further =>
    intro after
    cases after with
    | files after => exact further rfl
    | fileFirst name other further' => exact further' rfl
    | directories after further further' => exact further' rfl
    | inside name after => exact after.right_ne_nil rfl
  | directories before further further' =>
    intro after
    cases after with
    | files after => exact further rfl
    | fileFirst name other further'' => exact further' rfl
    | directories after further further' => exact lt_asymm before after
    | inside name after => exact lt_irrefl _ before
  | inside name before ih =>
    intro after
    cases after with
    | files after => exact lt_irrefl _ after
    | fileFirst name other further => exact before.right_ne_nil rfl
    | directories after further further' => exact lt_irrefl _ after
    | inside name after => exact ih after

instance : Std.Asymm Precedes := ⟨fun _ _ => Precedes.asymm⟩

theorem pairwise_inNameOrder {entries : List (String × FileTree)} (distinct : (entries.map Prod.fst).Nodup)
    (chosen : String × FileTree → Bool) :
    (inNameOrder (entries.filter chosen)).Pairwise fun a b => a.1 < b.1 :=
  pairwise_lt_byName (distinct.sublist (List.filter_sublist.map Prod.fst))

theorem pairwise_waysBelow {good : String → Prop} {node : FileTree} (named : node.Named good) :
    (waysBelow node).Pairwise Precedes := by
  induction named with
  | file content => simp [waysBelow, sourcesBelow]
  | directory entries distinct names inside below =>
    have further {e : String × FileTree} (entered : e ∈ inNameOrder (entries.filter isEntered)) {way : List String}
        (taken : way ∈ waysBelow e.2) : way ≠ [] := by
      have listed := (List.mem_filter.1 (mem_inNameOrder.1 entered)).1
      exact ((mem_waysBelow_iff (inside e listed) way).1 taken).ne_nil
    rw [waysBelow_directory (.directory entries distinct names inside), List.pairwise_append, List.pairwise_map,
      List.pairwise_flatMap]
    refine ⟨(pairwise_inNameOrder distinct isOwn).imp .files, ⟨?_, ?_⟩, ?_⟩
    · intro e entered
      have listed := (List.mem_filter.1 (mem_inNameOrder.1 entered)).1
      exact List.pairwise_map.2 ((below e listed).imp (.inside e.1))
    · refine (pairwise_inNameOrder distinct isEntered).imp_of_mem ?_
      intro a b first second before way taken way' taken'
      obtain ⟨rest, member, rfl⟩ := List.mem_map.1 taken
      obtain ⟨rest', member', rfl⟩ := List.mem_map.1 taken'
      exact .directories before (further first member) (further second member')
    · intro way own way' taken
      obtain ⟨e, -, rfl⟩ := List.mem_map.1 own
      obtain ⟨e', entered, taken⟩ := List.mem_flatMap.1 taken
      obtain ⟨rest, member, rfl⟩ := List.mem_map.1 taken
      exact .fileFirst e.1 e'.1 (further entered member)

end TypingAudit.Selection
