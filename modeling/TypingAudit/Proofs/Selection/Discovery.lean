import TypingAudit.Proofs.Selection.Walk
import TypingAudit.Proofs.Storage.Changes
import TypingAudit.Proofs.Storage.Paths

/-!
What a list of targets leads to. A target leads to a source file that it is, or that lies below it with no
directory in between that is to be skipped. The files found are those that some target leads to, each once, in
the order in which the targets first reach them. The order in which directories list their entries is not seen.
-/

namespace TypingAudit.Selection

open Audit Storage

section FirstOf

variable {α : Type} {key : α → Location}

theorem firstOf_sublist (seen : List Location) (items : List α) : (firstOf key seen items).Sublist items := by
  induction items generalizing seen with
  | nil => exact .slnil
  | cons a items ih =>
    rw [firstOf]
    split
    · exact (ih seen).cons a
    · exact (ih _).cons_cons a

theorem firstOf_append (seen : List Location) (first second : List α) :
    ∃ known, (∀ location, location ∈ known ↔ location ∈ seen ∨ location ∈ first.map key) ∧
      firstOf key seen (first ++ second) = firstOf key seen first ++ firstOf key known second := by
  induction first generalizing seen with
  | nil => exact ⟨seen, by simp, rfl⟩
  | cons a first ih =>
    rw [List.cons_append, firstOf, firstOf]
    split
    case isTrue old =>
      obtain ⟨known, same, split⟩ := ih seen
      refine ⟨known, fun location => ?_, split⟩
      rw [same, List.map_cons, List.mem_cons]
      grind
    case isFalse new =>
      obtain ⟨known, same, split⟩ := ih (key a :: seen)
      refine ⟨known, fun location => ?_, by rw [split, List.cons_append]⟩
      rw [same, List.map_cons, List.mem_cons, List.mem_cons, or_assoc]
      exact or_left_comm

theorem mem_map_firstOf (seen : List Location) (items : List α) (location : Location) :
    location ∈ (firstOf key seen items).map key ↔ location ∈ items.map key ∧ location ∉ seen := by
  induction items generalizing seen with
  | nil => simp [firstOf]
  | cons a items ih =>
    rw [firstOf]
    split
    case isTrue old => grind
    case isFalse new => grind

theorem nodup_map_firstOf (seen : List Location) (items : List α) : ((firstOf key seen items).map key).Nodup := by
  induction items generalizing seen with
  | nil => exact List.nodup_nil
  | cons a items ih =>
    rw [firstOf]
    split
    case isTrue old => exact ih seen
    case isFalse new =>
      rw [List.map_cons, List.nodup_cons]
      refine ⟨fun again => ?_, ih _⟩
      exact ((mem_map_firstOf _ items (key a)).1 again).2 List.mem_cons_self

end FirstOf

/-- A way from a target to a source file: the file is the target itself or below it. -/
structure LeadsBy (w : Workspace) (target : Path) (way : List String) (file : Location) : Prop where
  below : file = target.resolve w.directory ++ way
  isFile : ∃ content, w.get? file = some (.file content)
  isSource : ∃ name, file.getLast? = some name ∧ IsSource name
  entered : ∀ name ∈ way.dropLast, name ∉ skippedDirectories

def Leads (w : Workspace) (target : Path) (file : Location) : Prop := ∃ way, LeadsBy w target way file

/-- The first target that leads to one of two files decides, and where it leads to both, the ways from it do. -/
inductive ReachedBefore (w : Workspace) : List Path → Location → Location → Prop where
  | sooner {target : Path} {targets : List Path} {file other : Location} (leads : Leads w target file)
      (passed : ¬Leads w target other) : ReachedBefore w (target :: targets) file other
  | together {target : Path} {targets : List Path} {file other : Location} {way way' : List String}
      (leads : LeadsBy w target way file) (leads' : LeadsBy w target way' other) (before : Precedes way way') :
      ReachedBefore w (target :: targets) file other
  | later {target : Path} {targets : List Path} {file other : Location} (passed : ¬Leads w target file)
      (passed' : ¬Leads w target other) (before : ReachedBefore w targets file other) :
      ReachedBefore w (target :: targets) file other

section Target

variable {w : Workspace} {target : Path}

theorem entry_eq_ok_iff {node : FileTree} :
    w.entry target = .ok node ↔ ∃ location, w.locate target = .ok location ∧ w.get? location = some node := by
  unfold Workspace.entry
  cases w.locate target with
  | error kind => simp
  | ok location => cases there : w.get? location <;> simp [there]

theorem getLast?_resolve (standing : w.Standing) {content : List UInt8}
    (found : w.entry target = .ok (.file content)) :
    (target.resolve w.directory).getLast? = some target.name := by
  obtain ⟨location, located, there⟩ := entry_eq_ok_iff.1 found
  have notDirectory : ¬w.files.HasDirectory location := by
    rintro ⟨entries, directory⟩
    cases there.symm.trans directory
  rw [← Workspace.resolve_of_locate located]
  rcases Workspace.locate_cases standing located with directory | ⟨above, stepped⟩
  · exact absurd directory notDirectory
  · obtain ⟨directory, rfl⟩ := Workspace.step_eq_ok_iff.1 stepped
    split at notDirectory
    · exact absurd directory.dropLast notDirectory
    · simp_all

theorem resolve_extend (directory : Location) (p : Path) {way : List String} (plain : ".." ∉ way) :
    (extend p way).resolve directory = p.resolve directory ++ way := by
  change Path.follow _ (p.segments ++ way) = _
  rw [Path.follow_append, Path.follow_of_plain _ plain]
  rfl

theorem LeadsBy.plain (standing : w.Standing) {way : List String} {file : Location}
    (leads : LeadsBy w target way file) : ".." ∉ way := by
  obtain ⟨content, found⟩ := leads.isFile
  intro member
  refine (standing.named.of_get? found).2 ".." ?_ rfl
  rw [leads.below]
  exact List.mem_append_right _ member

theorem get?_below {node : FileTree} (found : w.get? (target.resolve w.directory) = some node) (way : List String) :
    w.get? (target.resolve w.directory ++ way) = node.get? way := by
  rw [Workspace.get?] at found
  rw [Workspace.get?, FileTree.get?_append, found, Option.bind_some]

theorem leadsBy_iff_of_file {content : List UInt8}
    (found : w.get? (target.resolve w.directory) = some (.file content)) {way : List String} :
    LeadsBy w target way (target.resolve w.directory ++ way) ↔
      way = [] ∧ ∃ name, (target.resolve w.directory).getLast? = some name ∧ IsSource name := by
  constructor
  · rintro ⟨-, ⟨content', isFile⟩, isSource, -⟩
    rw [get?_below found] at isFile
    by_cases further : way = []
    · rw [further, List.append_nil] at isSource
      exact ⟨further, isSource⟩
    · rw [FileTree.get?_file further] at isFile
      cases isFile
  · rintro ⟨rfl, isSource⟩
    rw [List.append_nil]
    exact ⟨(List.append_nil _).symm, ⟨content, found⟩, isSource, by simp⟩

theorem leadsBy_iff_of_directory {entries : List (String × FileTree)}
    (found : w.get? (target.resolve w.directory) = some (.directory entries)) {way : List String} :
    LeadsBy w target way (target.resolve w.directory ++ way) ↔ IsWay (.directory entries) way := by
  have last (further : way ≠ []) : (target.resolve w.directory ++ way).getLast? = way.getLast? :=
    List.getLast?_append_of_ne_nil _ further
  constructor
  · rintro ⟨-, ⟨content, isFile⟩, isSource, entered⟩
    rw [get?_below found] at isFile
    have further : way ≠ [] := by
      rintro rfl
      cases isFile
    rw [last further] at isSource
    exact ⟨⟨content, isFile⟩, isSource, entered⟩
  · intro isWay
    refine ⟨rfl, ?_, ?_, isWay.entered⟩
    · rw [get?_below found]
      exact isWay.isFile
    · rw [last isWay.ne_nil]
      exact isWay.isSource

/-- What is found from one target: the ways that it leads by, in their order. -/
theorem sourcesOf_value (standing : w.Standing) (existing : w.has target = true) :
    ∃ ways : List (List String), (sourcesOf w target).value = ways.map (extend target) ∧ ways.Pairwise Precedes ∧
      ∀ way, way ∈ ways ↔ LeadsBy w target way (target.resolve w.directory ++ way) := by
  obtain ⟨node, entered⟩ := Succeeds.of_isOk existing
  obtain ⟨location, located, there⟩ := entry_eq_ok_iff.1 entered
  obtain rfl := Workspace.resolve_of_locate located
  cases node with
  | file content =>
    have last := getLast?_resolve standing entered
    have leads (way : List String) :
        LeadsBy w target way (target.resolve w.directory ++ way) ↔ way = [] ∧ IsSource target.name := by
      rw [leadsBy_iff_of_file there, last]
      simp
    unfold sourcesOf
    rw [entered]
    by_cases isSource : isSourceName target.name = true
    · refine ⟨[[]], ?_, List.pairwise_singleton .., fun way => ?_⟩
      · simp [isSource, extend]
      · rw [leads, ← isSourceName_iff]
        simp [isSource]
    · refine ⟨[], ?_, .nil, fun way => ?_⟩
      · rw [if_neg isSource]
        rfl
      · rw [leads, ← isSourceName_iff]
        simp [isSource]
  | directory entries =>
    have named := (standing.named.of_get? there).1
    refine ⟨waysBelow (.directory entries), ?_, pairwise_waysBelow named, fun way => ?_⟩
    · unfold sourcesOf
      rw [entered]
      exact relative_of_named named target
    · rw [leadsBy_iff_of_directory there]
      exact mem_waysBelow_iff named way

theorem mem_resolve_sourcesOf (standing : w.Standing) (existing : w.has target = true) (file : Location) :
    file ∈ (sourcesOf w target).value.map (Path.resolve w.directory) ↔ Leads w target file := by
  obtain ⟨ways, value, -, taken⟩ := sourcesOf_value standing existing
  rw [value, List.map_map, List.mem_map]
  constructor
  · rintro ⟨way, member, rfl⟩
    have leads := (taken way).1 member
    refine ⟨way, ?_⟩
    rw [Function.comp, resolve_extend _ _ (leads.plain standing)]
    exact leads
  · rintro ⟨way, leads⟩
    obtain rfl := leads.below
    exact ⟨way, (taken way).2 leads, resolve_extend _ _ (leads.plain standing)⟩

theorem pairwise_resolve_sourcesOf (standing : w.Standing) (existing : w.has target = true) (targets : List Path) :
    ((sourcesOf w target).value.map (Path.resolve w.directory)).Pairwise (ReachedBefore w (target :: targets)) := by
  obtain ⟨ways, value, ordered, taken⟩ := sourcesOf_value standing existing
  rw [value, List.map_map, List.pairwise_map]
  refine ordered.imp_of_mem ?_
  intro way way' member member' before
  have leads := (taken way).1 member
  have leads' := (taken way').1 member'
  rw [Function.comp, resolve_extend _ _ (leads.plain standing), Function.comp,
    resolve_extend _ _ (leads'.plain standing)]
  exact .together leads leads' before

end Target

section Targets

variable {w : Workspace} {targets : List Path}

def reached (w : Workspace) (targets : List Path) : List Path := targets.flatMap fun t => (sourcesOf w t).value

theorem sourceFiles_value (root : Option Path) :
    (sourceFiles w root targets).value = (firstOf (Path.resolve w.directory) [] (reached w targets)).map fun path =>
      SourceFile.mk path (path.display w.directory root) := by
  change (firstOf _ [] (targets.mapM (sourcesOf w)).value.flatten).map _ = _
  rw [Logged.value_mapM]
  rfl

theorem mem_resolve_reached (standing : w.Standing) (existing : ∀ t ∈ targets, w.has t = true) (file : Location) :
    file ∈ (reached w targets).map (Path.resolve w.directory) ↔ ∃ t ∈ targets, Leads w t file := by
  rw [reached, List.map_flatMap, List.mem_flatMap]
  constructor
  · rintro ⟨target, given, member⟩
    exact ⟨target, given, (mem_resolve_sourcesOf standing (existing target given) file).1 member⟩
  · rintro ⟨target, given, leads⟩
    exact ⟨target, given, (mem_resolve_sourcesOf standing (existing target given) file).2 leads⟩

theorem pairwise_firstOf_reached (standing : w.Standing) (existing : ∀ t ∈ targets, w.has t = true)
    (seen : List Location) :
    ((firstOf (Path.resolve w.directory) seen (reached w targets)).map (Path.resolve w.directory)).Pairwise
      (ReachedBefore w targets) := by
  induction targets generalizing seen with
  | nil => exact .nil
  | cons target targets ih =>
    obtain ⟨there, existing⟩ := List.forall_mem_cons.1 existing
    have leads := mem_resolve_sourcesOf standing there
    obtain ⟨known, remembered, split⟩ :=
      firstOf_append seen (sourcesOf w target).value (reached w targets)
    rw [reached, List.flatMap_cons, ← reached, split, List.map_append, List.pairwise_append]
    have passed {file : Location}
        (later : file ∈ (firstOf (Path.resolve w.directory) known (reached w targets)).map (Path.resolve w.directory)) :
        ¬Leads w target file := by
      intro leadsHere
      exact ((mem_map_firstOf _ _ _).1 later).2 ((remembered file).2 (.inr ((leads file).2 leadsHere)))
    refine ⟨?_, ?_, ?_⟩
    · exact (pairwise_resolve_sourcesOf standing there targets).sublist ((firstOf_sublist _ _).map _)
    · exact (ih existing known).imp_of_mem fun first second before => .later (passed first) (passed second) before
    · intro file first other second
      have found := ((firstOf_sublist _ _).map _).mem first
      exact .sooner ((leads file).1 found) (passed second)

end Targets

/-- The same files and directories at the same places, in whatever order a directory lists them. -/
def Relisted (t other : FileTree) : Prop :=
  ∀ place, (other.get? place).map FileTree.content? = (t.get? place).map FileTree.content?

theorem relisted_of_perm {entries others : List (String × FileTree)} (perm : entries.Perm others)
    (distinct : (entries.map Prod.fst).Nodup) : Relisted (.directory entries) (.directory others) := by
  have looked (name : String) : others.lookup name = entries.lookup name := by
    have distinct' : (others.map Prod.fst).Nodup := (perm.map Prod.fst).nodup_iff.1 distinct
    apply Option.ext
    intro node
    constructor
    · exact fun found => FileTree.lookup_eq_some_of_mem distinct (perm.mem_iff.2 (FileTree.mem_of_lookup_eq_some found))
    · exact fun found =>
        FileTree.lookup_eq_some_of_mem distinct' (perm.mem_iff.1 (FileTree.mem_of_lookup_eq_some found))
  intro place
  cases place with
  | nil => rfl
  | cons name place => rw [FileTree.get?, FileTree.get?, looked name]

section Listing

variable {w : Workspace} {files : FileTree}

theorem Relisted.cases (relisted : Relisted w.files files) (place : Location) :
    (files.get? place = none ∧ w.files.get? place = none) ∨
      (∃ content, files.get? place = some (.file content) ∧ w.files.get? place = some (.file content)) ∨
      ∃ others entries, files.get? place = some (.directory others) ∧
        w.files.get? place = some (.directory entries) := by
  have same := relisted place
  generalize files.get? place = there at same ⊢
  generalize w.files.get? place = here at same ⊢
  rcases there with _ | _ | _ <;> rcases here with _ | _ | _ <;> simp_all [FileTree.content?]

theorem Relisted.get?_eq_file_iff (relisted : Relisted w.files files) {place : Location} {content : List UInt8} :
    files.get? place = some (.file content) ↔ w.files.get? place = some (.file content) := by
  rcases relisted.cases place with ⟨there, here⟩ | ⟨_, there, here⟩ | ⟨_, _, there, here⟩ <;> simp [there, here]

theorem Relisted.hasDirectory_iff (relisted : Relisted w.files files) {place : Location} :
    files.HasDirectory place ↔ w.files.HasDirectory place := by
  unfold FileTree.HasDirectory
  rcases relisted.cases place with ⟨there, here⟩ | ⟨_, there, here⟩ | ⟨_, _, there, here⟩ <;> simp [there, here]

theorem Relisted.locate (relisted : Relisted w.files files) (p : Path) :
    Workspace.locate { w with files := files } p = w.locate p := by
  have stepped : Workspace.step { w with files := files } = w.step := by
    funext place segment
    unfold Workspace.step Workspace.get?
    rcases relisted.cases place with ⟨there, here⟩ | ⟨_, there, here⟩ | ⟨_, _, there, here⟩ <;> simp [there, here]
  unfold Workspace.locate
  rw [stepped]

theorem Relisted.has (relisted : Relisted w.files files) (p : Path) :
    Workspace.has { w with files := files } p = w.has p := by
  unfold Workspace.has Workspace.entry
  rw [relisted.locate]
  cases w.locate p with
  | error kind => rfl
  | ok place =>
    unfold Workspace.get?
    rcases relisted.cases place with ⟨there, here⟩ | ⟨_, there, here⟩ | ⟨_, _, there, here⟩ <;>
      simp [there, here, Except.isOk, Except.toBool]

theorem Relisted.leadsBy_iff (relisted : Relisted w.files files) {target : Path} {way : List String}
    {file : Location} : LeadsBy { w with files := files } target way file ↔ LeadsBy w target way file := by
  constructor
  · rintro ⟨below, ⟨content, isFile⟩, isSource, entered⟩
    exact ⟨below, ⟨content, relisted.get?_eq_file_iff.1 isFile⟩, isSource, entered⟩
  · rintro ⟨below, ⟨content, isFile⟩, isSource, entered⟩
    exact ⟨below, ⟨content, relisted.get?_eq_file_iff.2 isFile⟩, isSource, entered⟩

theorem Relisted.sourcesOf (relisted : Relisted w.files files) (standing : w.Standing)
    (named : files.Named (· ≠ "..")) {target : Path} (existing : w.has target = true) :
    (Selection.sourcesOf { w with files := files } target).value = (Selection.sourcesOf w target).value := by
  have standing' : Workspace.Standing { w with files := files } :=
    ⟨named, relisted.hasDirectory_iff.2 standing.standing⟩
  obtain ⟨ways, value, ordered, taken⟩ := sourcesOf_value standing existing
  obtain ⟨ways', value', ordered', taken'⟩ := sourcesOf_value standing' ((relisted.has target).trans existing)
  have same : ways' = ways := by
    refine ordered'.eq_of_mem_iff ordered fun way => ?_
    rw [taken, taken']
    exact relisted.leadsBy_iff
  rw [value, value', same]

end Listing

/-- The files found are those that some target leads to. Each is found once, they stand in the order in which
they are first reached, and the order of the listings does not matter. -/
theorem sourceFiles_exact (w : Workspace) (root : Option Path) (targets : List Path) (standing : w.Standing)
    (existing : ∀ t ∈ targets, w.has t = true) :
    let places := (sourceFiles w root targets).value.map fun u => u.path.resolve w.directory
    places.Nodup ∧
      (∀ file, file ∈ places ↔ ∃ t ∈ targets, Leads w t file) ∧
      places.Pairwise (ReachedBefore w targets) ∧
      ∀ files : FileTree, files.Named (· ≠ "..") → Relisted w.files files →
        (sourceFiles { w with files := files } root targets).value = (sourceFiles w root targets).value := by
  have places : ((sourceFiles w root targets).value.map fun u => u.path.resolve w.directory) =
      (firstOf (Path.resolve w.directory) [] (reached w targets)).map (Path.resolve w.directory) := by
    rw [sourceFiles_value, List.map_map]
    rfl
  dsimp only
  rw [places]
  refine ⟨nodup_map_firstOf _ _, ?_, pairwise_firstOf_reached standing existing [], ?_⟩
  · intro file
    rw [mem_map_firstOf, mem_resolve_reached standing existing]
    simp
  · intro files named relisted
    have same : reached { w with files := files } targets = reached w targets :=
      List.flatMap_congr fun t given => relisted.sourcesOf standing named (existing t given)
    rw [sourceFiles_value, sourceFiles_value, same]

def layeredEntries : List (String × FileTree) :=
  [("src", .directory [("__pycache__", .directory [("x.py", .file [])]), ("z.py", .file []),
      ("pkg", .directory [("notes.txt", .file []), (".py", .file []), ("m.py", .file [])])]),
    ("b.py", .file []), ("a.py", .file []), (".git", .directory [("hook.py", .file [])])]

def layeredFolder : Workspace := ⟨.directory layeredEntries, []⟩

/-- Targets that overlap; the last but one is itself a directory that is skipped below others. -/
def layeredTargets : List Path := [⟨.here, ["src", "pkg"]⟩, ⟨.here, []⟩, ⟨.here, [".git"]⟩, ⟨.root, ["b.py"]⟩]

theorem layeredFolder_found :
    layeredFolder.Standing ∧ (∀ t ∈ layeredTargets, layeredFolder.has t = true) ∧
      (sourceFiles layeredFolder none layeredTargets).value.map SourceFile.unitPath =
        ["src/pkg/m.py", "a.py", "b.py", "src/z.py", ".git/hook.py"] ∧
      (∃ t ∈ layeredTargets, Leads layeredFolder t [".git", "hook.py"]) ∧
      (¬∃ t ∈ layeredTargets, Leads layeredFolder t ["src", "__pycache__", "x.py"]) ∧
      (sourceFiles ⟨.directory layeredEntries.reverse, []⟩ none layeredTargets).value =
        (sourceFiles layeredFolder none layeredTargets).value := by
  have named : (FileTree.directory layeredEntries).Named (· ≠ "..") := by
    simp [layeredEntries, FileTree.Named.directory_iff, FileTree.Named.file]
  have standing : layeredFolder.Standing := ⟨named, ⟨_, rfl⟩⟩
  have existing : ∀ t ∈ layeredTargets, layeredFolder.has t = true := by decide +kernel
  have places : ((sourceFiles layeredFolder none layeredTargets).value.map fun u => u.path.resolve []) =
      [["src", "pkg", "m.py"], ["a.py"], ["b.py"], ["src", "z.py"], [".git", "hook.py"]] := by cbv
  obtain ⟨-, exact, -, independent⟩ := sourceFiles_exact layeredFolder none layeredTargets standing existing
  refine ⟨standing, existing, by cbv, (exact _).1 (places ▸ by decide), ?_, ?_⟩
  · exact mt (exact _).2 (places ▸ by decide)
  · have perm := (List.reverse_perm layeredEntries).symm
    exact independent (.directory layeredEntries.reverse) (named.perm perm) (relisted_of_perm perm (by decide))

end TypingAudit.Selection
