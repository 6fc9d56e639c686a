import TypingAudit.Proofs.Selection.Discovery

/-!
The names under which source files are reported. A file below the working directory is named by the way to it and
any other by the way from the root, and both are read back from the name: where files have proper names, no two
source files share one.
-/

namespace TypingAudit.Selection

open Audit Storage

/-- The way from the root to every source file consists of names that files can have. -/
def ProperSources (w : Workspace) : Prop :=
  ∀ file content name, w.get? file = some (.file content) → file.getLast? = some name → IsSource name →
    ∀ s ∈ file, ProperName s

section Display

variable {directory file other : Location}

/-- The name of a file tells its place. -/
theorem ofString_display (plain : ".." ∉ directory) (proper : ∀ s ∈ file, ProperName s) :
    Path.ofString ((Path.ofLocation file).display directory (some (.ofLocation directory))) =
      match directory.isPrefixOf? file with
      | some below => ⟨.here, below⟩
      | none => ⟨.root, file⟩ := by
  rw [Path.display, Path.resolve_ofLocation _ plain, Path.resolve_ofLocation _ (plain_of_proper proper)]
  cases inside : directory.isPrefixOf? file with
  | none => exact Path.ofString_text proper
  | some below =>
    have split := List.isPrefixOf?_eq_some_iff_append_eq.1 inside
    refine Path.ofString_text ?_
    intro s member
    exact proper s (split ▸ List.mem_append_right directory member)

theorem display_injective (plain : ".." ∉ directory) (proper : ∀ s ∈ file, ProperName s)
    (proper' : ∀ s ∈ other, ProperName s)
    (same : (Path.ofLocation file).display directory (some (.ofLocation directory)) =
      (Path.ofLocation other).display directory (some (.ofLocation directory))) : file = other := by
  have read := congrArg Path.ofString same
  rw [ofString_display plain proper, ofString_display plain proper'] at read
  cases inside : directory.isPrefixOf? file with
  | none =>
    cases inside' : directory.isPrefixOf? other with
    | none => simpa [inside, inside'] using read
    | some below => simp [inside, inside'] at read
  | some below =>
    cases inside' : directory.isPrefixOf? other with
    | none => simp [inside, inside'] at read
    | some below' =>
      have sameBelow : below = below' := by simpa [inside, inside'] using read
      rw [← List.isPrefixOf?_eq_some_iff_append_eq.1 inside, ← List.isPrefixOf?_eq_some_iff_append_eq.1 inside',
        sameBelow]

end Display

section Units

variable {w : Workspace} {targets : List Path}

structure IsTarget (w : Workspace) (target : Path) : Prop where
  spelled : ∃ location, target = .ofLocation location ∧ ".." ∉ location
  existing : w.has target = true

theorem isTarget_of_existingTargets {homes : Homes} {given : List String} (plain : ".." ∉ w.directory)
    (found : (existingTargets w homes given).value = some targets) : ∀ t ∈ targets, IsTarget w t := by
  induction given generalizing targets with
  | nil =>
    cases found
    simp
  | cons text given ih =>
    rw [existingTargets] at found
    split at found
    case h_1 => cases found
    case h_2 path expanded =>
      dsimp only at found
      split at found
      case isTrue there =>
        obtain ⟨others, rest, rfl⟩ := Option.map_eq_some_iff.1 found
        rw [List.forall_mem_cons]
        exact ⟨⟨⟨_, rfl, Path.plain_resolve plain path⟩, there⟩, ih rest⟩
      case isFalse absent => exact ih found

theorem path_of_mem_reached (standing : w.Standing) (proper : ProperSources w)
    (spelled : ∀ t ∈ targets, IsTarget w t) {path : Path} (member : path ∈ reached w targets) :
    ∃ file, path = .ofLocation file ∧ ∀ s ∈ file, ProperName s := by
  obtain ⟨target, given, member⟩ := List.mem_flatMap.1 member
  obtain ⟨⟨location, rfl, plain⟩, existing⟩ := spelled target given
  obtain ⟨ways, value, -, taken⟩ := sourcesOf_value standing existing
  rw [value] at member
  obtain ⟨way, listed, rfl⟩ := List.mem_map.1 member
  have leads := (taken way).1 listed
  rw [Path.resolve_ofLocation _ plain] at leads
  obtain ⟨content, there⟩ := leads.isFile
  obtain ⟨name, last, isSource⟩ := leads.isSource
  exact ⟨location ++ way, rfl, proper _ content name there last isSource⟩

theorem nodup_unitPath (standing : w.Standing) (proper : ProperSources w) (spelled : ∀ t ∈ targets, IsTarget w t) :
    ((sourceFiles w (some (.ofLocation w.directory)) targets).value.map SourceFile.unitPath).Nodup := by
  have distinct : ((firstOf (Path.resolve w.directory) [] (reached w targets)).map (Path.resolve w.directory)).Nodup :=
    nodup_map_firstOf _ _
  rw [sourceFiles_value, List.map_map]
  refine List.pairwise_map.2 ((List.pairwise_map.1 distinct).imp_of_mem ?_)
  intro path other member member' different sameName
  obtain ⟨file, rfl, names⟩ := path_of_mem_reached standing proper spelled ((firstOf_sublist _ _).mem member)
  obtain ⟨file', rfl, names'⟩ := path_of_mem_reached standing proper spelled ((firstOf_sublist _ _).mem member')
  exact different (congrArg _ (congrArg _ (display_injective standing.plain names names' sameName)))

end Units

end TypingAudit.Selection
