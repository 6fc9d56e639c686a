import TypingAudit.Proofs.Computation
import TypingAudit.Proofs.Storage.Paths
import TypingAudit.Proofs.Storage.Trees
import TypingAudit.Storage.Workspace

/-!
What a workspace looks like after an attempt to change it. Making directories changes no file. Writing a file
changes that file alone; an attempt that ends in a fault changes none.
-/

namespace TypingAudit.Storage

namespace Workspace

def contentAt (w : Workspace) (location : Location) : Option (List UInt8) :=
  (w.get? location).bind FileTree.content?

/-- Files have proper names, no directory lists one twice, and the working directory is there. -/
structure WellFormed (w : Workspace) : Prop where
  named : w.files.Named ProperName
  standing : w.files.HasDirectory w.directory

/-- What every step of a run keeps: the working directory stays one, and no name is a double dot. -/
structure Standing (w : Workspace) : Prop where
  named : w.files.Named (· ≠ "..")
  standing : w.files.HasDirectory w.directory

theorem WellFormed.toStanding {w : Workspace} (wellFormed : w.WellFormed) : w.Standing :=
  ⟨wellFormed.named.mono fun _ proper => proper.2.2.1, wellFormed.standing⟩

theorem Standing.plain {w : Workspace} (standing : w.Standing) : ".." ∉ w.directory := by
  obtain ⟨entries, found⟩ := standing.standing
  exact fun member => (standing.named.of_get? found).2 _ member rfl

/-- No file has changed but, perhaps, those at the given locations. -/
structure ChangesWithin (locations : List Location) (w after : Workspace) : Prop where
  directory : after.directory = w.directory
  standing : after.Standing
  contents : ∀ other, other ∉ locations → after.contentAt other = w.contentAt other

namespace ChangesWithin

variable {w middle after : Workspace} {first second : List Location}

theorem refl (standing : w.Standing) : ChangesWithin [] w w := ⟨rfl, standing, fun _ _ => rfl⟩

theorem trans (earlier : ChangesWithin first w middle) (later : ChangesWithin second middle after) :
    ChangesWithin (first ++ second) w after where
  directory := later.directory.trans earlier.directory
  standing := later.standing
  contents other outside := by
    rw [List.mem_append, not_or] at outside
    exact (later.contents other outside.2).trans (earlier.contents other outside.1)

end ChangesWithin

section Locate

variable {w : Workspace} {p : Path} {location : Location}

theorem step_eq_ok_iff {start : Location} {segment : String} :
    w.step start segment = .ok location ↔
      w.files.HasDirectory start ∧ location = if segment == ".." then start.dropLast else start ++ [segment] := by
  have there : w.files.get? start = w.get? start := rfl
  unfold step FileTree.HasDirectory
  rw [there]
  cases w.get? start with
  | none => simp
  | some node =>
    cases node with
    | file content => simp
    | directory entries =>
      constructor
      · intro stepped
        exact ⟨⟨entries, rfl⟩, (Except.ok.inj stepped).symm⟩
      · rintro ⟨-, rfl⟩
        rfl

theorem follow_of_foldlM {segments : List String} {start : Location}
    (reached : segments.foldlM w.step start = .ok location) : location = Path.follow start segments := by
  induction segments generalizing start with
  | nil =>
    cases reached
    rfl
  | cons segment segments ih =>
    rw [List.foldlM_cons, bind_eq_ok_iff] at reached
    obtain ⟨next, stepped, rest⟩ := reached
    rw [ih rest, (step_eq_ok_iff.1 stepped).2]
    rfl

theorem resolve_of_locate (found : w.locate p = .ok location) : location = p.resolve w.directory :=
  follow_of_foldlM found

inductive Reaches (w : Workspace) : Location → Prop where
  | directory (location : Location) (there : w.files.HasDirectory location) : Reaches w location
  | child (above : Location) (name : String) (plain : name ≠ "..") (there : w.files.HasDirectory above) :
      Reaches w (above ++ [name])

theorem reaches_of_step {start : Location} {segment : String} (stepped : w.step start segment = .ok location) :
    w.Reaches location := by
  obtain ⟨there, rfl⟩ := step_eq_ok_iff.1 stepped
  by_cases up : segment = ".."
  · rw [if_pos (by simpa using up)]
    exact .directory _ there.dropLast
  · rw [if_neg (by simpa using up)]
    exact .child start segment up there

theorem Standing.hasDirectory_start (standing : w.Standing) (p : Path) :
    w.files.HasDirectory (if p.anchor = .here then w.directory else []) := by
  split
  · exact standing.standing
  · have root : w.files.HasDirectory ([] ++ w.directory) := standing.standing
    exact root.of_append

theorem locate_cases (standing : w.Standing) (found : w.locate p = .ok location) :
    w.files.HasDirectory location ∨ ∃ above, w.step above p.name = .ok location := by
  unfold locate at found
  rcases List.eq_nil_or_concat p.segments with none | ⟨before, last, split⟩
  · rw [none] at found
    cases found
    exact .inl (standing.hasDirectory_start p)
  · have named : p.name = last := by simp [Path.name, split]
    rw [split, List.concat_eq_append, List.foldlM_append, bind_eq_ok_iff] at found
    obtain ⟨above, -, found⟩ := found
    rw [List.foldlM_cons, bind_eq_ok_iff] at found
    obtain ⟨reached, stepped, same⟩ := found
    cases same
    exact .inr ⟨above, named ▸ stepped⟩

theorem reaches_of_locate (standing : w.Standing) (found : w.locate p = .ok location) : w.Reaches location := by
  rcases locate_cases standing found with there | ⟨above, stepped⟩
  · exact .directory _ there
  · exact reaches_of_step stepped

end Locate

section Put

variable {w : Workspace} {location : Location} {node : FileTree}

theorem Standing.put (standing : w.Standing) (reached : w.Reaches location)
    (free : ¬w.files.HasDirectory location) (new : node.Named (· ≠ "..")) : (w.put location node).Standing where
  named := by
    refine standing.named.put ?_ new
    cases reached with
    | directory _ there => exact absurd there free
    | child above name plain there =>
      obtain ⟨entries, found⟩ := there
      intro segment member
      rcases List.mem_append.1 member with earlier | last
      · exact (standing.named.of_get? found).2 segment earlier
      · rw [List.mem_singleton.1 last]
        exact plain
  standing := standing.standing.put free node

theorem changesWithin_put (standing : w.Standing) (reached : w.Reaches location)
    (free : ¬w.files.HasDirectory location) (new : node.Named (· ≠ ".."))
    (leaf : ∀ below, below ≠ [] → node.get? below = none) : ChangesWithin [location] w (w.put location node) where
  directory := rfl
  standing := standing.put reached free new
  contents _ outside := FileTree.content?_put (List.ne_of_not_mem_cons outside) leaf free

theorem get?_put_of_reaches (reached : w.Reaches location) (node : FileTree) :
    (w.put location node).get? location = some node := by
  cases reached with
  | directory _ there =>
    obtain ⟨entries, found⟩ := there
    exact FileTree.get?_put_of_some found node
  | child above name plain there => exact FileTree.get?_put_child there name node

theorem changesWithin_rewrite {old : List UInt8} (standing : w.Standing) (there : w.contentAt location = some old)
    (content : List UInt8) : ChangesWithin [location] w (w.put location (.file content)) := by
  obtain ⟨there', found, isFile⟩ := Option.bind_eq_some_iff.1 there
  have free : ¬w.files.HasDirectory location := by
    intro directory
    have nothing := directory.content?
    rw [contentAt, get?] at there
    rw [there] at nothing
    cases nothing
  rcases List.eq_nil_or_concat location with rfl | ⟨above, name, rfl⟩
  · have root : w.files.HasDirectory ([] ++ w.directory) := standing.standing
    exact absurd root.of_append free
  · rw [List.concat_eq_append] at found free ⊢
    have plain : name ≠ ".." := (standing.named.of_get? found).2 name (by simp)
    have reached : w.Reaches (above ++ [name]) :=
      .child above name plain (FileTree.hasDirectory_of_get?_append found (by simp))
    exact changesWithin_put standing reached free (.file content) fun _ => FileTree.get?_file

end Put

section Directories

variable {w : Workspace}

theorem changesWithin_makeDirectory {p : Path} {made : Workspace} (standing : w.Standing)
    (succeeded : w.makeDirectory p = .ok made) : ChangesWithin [] w made := by
  unfold makeDirectory at succeeded
  split at succeeded
  · cases succeeded
  · rename_i location found
    split at succeeded
    · cases succeeded
    · rename_i absent
      cases succeeded
      have reached := reaches_of_locate standing found
      have free : ¬w.files.HasDirectory location := by
        rintro ⟨entries, there⟩
        rw [get?, there] at absent
        cases absent
      have nothing : (FileTree.empty).Named (· ≠ "..") := .directory [] List.nodup_nil (by simp) (by simp)
      have leaf : ∀ below, below ≠ [] → FileTree.empty.get? below = none := by
        intro below further
        cases below with
        | nil => exact absurd rfl further
        | cons name rest => rfl
      have only := changesWithin_put standing reached free nothing leaf
      refine ⟨rfl, only.standing, fun other _ => ?_⟩
      by_cases same : other = location
      · subst same
        rw [contentAt, get?_put_of_reaches reached, contentAt, absent]
        rfl
      · exact only.contents other (by simpa using same)

theorem changesWithin_ensureDirectory (standing : w.Standing) (p : Path) :
    ChangesWithin [] w (w.ensureDirectory p).workspace := by
  unfold ensureDirectory
  split
  · rename_i made succeeded
    exact changesWithin_makeDirectory standing succeeded
  · split
    · exact .refl standing
    · exact .refl standing

theorem changesWithin_ensureBranch (standing : w.Standing) (anchor : Anchor) (segments : List String) :
    ChangesWithin [] w (w.ensureBranch anchor segments).workspace := by
  induction segments with
  | nil => exact changesWithin_ensureDirectory standing _
  | cons segment above ih =>
    unfold ensureBranch
    dsimp only
    split
    · rename_i made succeeded
      exact changesWithin_makeDirectory standing succeeded
    · split
      · split
        · exact ih
        · exact ih.trans (changesWithin_ensureDirectory ih.standing _)
      · split
        · exact .refl standing
        · exact .refl standing

theorem changesWithin_ensureDirectories (standing : w.Standing) (p : Path) :
    ChangesWithin [] w (w.ensureDirectories p).workspace :=
  changesWithin_ensureBranch standing p.anchor p.segments.reverse

end Directories

/-- An attempt to write a file: with a fault no file has changed, and without one the file has its new content
and no other has changed. -/
inductive Writes (w : Workspace) (location : Location) (content : List UInt8) : Attempt → Prop where
  | failed (after : Workspace) (fault : Fault) (kept : ChangesWithin [] w after) :
      Writes w location content ⟨after, some fault⟩
  | written (after : Workspace) (changed : ChangesWithin [location] w after)
      (written : after.contentAt location = some content) : Writes w location content ⟨after, none⟩

theorem writes_writeFile {w : Workspace} (standing : w.Standing) (p : Path) (content : List UInt8) :
    Writes w (p.resolve w.directory) content (w.writeFile p content) := by
  unfold writeFile
  split
  · exact .failed _ _ (.refl standing)
  · rename_i location found
    have reached := reaches_of_locate standing found
    have resolved := resolve_of_locate found
    subst resolved
    split
    · exact .failed _ _ (.refl standing)
    · rename_i notDirectory
      have free : ¬w.files.HasDirectory (p.resolve w.directory) := fun ⟨entries, there⟩ => notDirectory entries there
      refine .written _ (changesWithin_put standing reached free (.file content) fun _ => FileTree.get?_file) ?_
      rw [contentAt, get?_put_of_reaches reached]
      rfl

theorem writes_writeFileBelow {w : Workspace} (standing : w.Standing) (p : Path) (content : List UInt8) :
    Writes w (p.resolve w.directory) content (w.writeFileBelow p content) := by
  have raised := changesWithin_ensureDirectories standing p.parent
  unfold writeFileBelow
  generalize w.ensureDirectories p.parent = attempt at raised
  obtain ⟨middle, fault⟩ := attempt
  cases fault with
  | some fault => exact .failed _ fault raised
  | none =>
    have wrote := writes_writeFile raised.standing p content
    rw [raised.directory] at wrote
    change Writes w _ content (middle.writeFile p content)
    generalize middle.writeFile p content = attempt at wrote
    cases wrote with
    | failed after fault kept => exact .failed after fault (raised.trans kept)
    | written after changed written => exact .written after (raised.trans changed) written

/-- Whether a file can be written does not depend on what is written. -/
theorem fault_writeFileBelow (w : Workspace) (p : Path) (content other : List UInt8) :
    (w.writeFileBelow p content).fault = (w.writeFileBelow p other).fault := by
  unfold writeFileBelow
  dsimp only
  split
  · rfl
  · unfold writeFile
    split
    · rfl
    · split <;> rfl

end Workspace

end TypingAudit.Storage
