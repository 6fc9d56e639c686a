import TypingAudit.Proofs.Command.Skipping
import TypingAudit.Proofs.Command.Units

/-!
What the names of the units stand for. From the name of a unit and the working directory one comes back to its
file, whatever the targets were that led to it: so the names tell the files apart, and a report that is sorted by
names has an entry of its own for every file.
-/

namespace TypingAudit.Command

open Audit Report Rule Selection Storage Summary Workspace

/-- The name of a file seen from a directory: the way from the directory if the file is below it, and the way from
the root if not. -/
inductive NamedFrom (directory file : Location) : String → Prop where
  | below (segments : List String) (proper : ∀ s ∈ segments, ProperName s) (further : segments ≠ [])
      (way : directory ++ segments = file) : NamedFrom directory file ("/".intercalate segments)
  | outside (apart : ¬directory <+: file) : NamedFrom directory file (Path.ofLocation file).text

section Names

variable {directory file : Location}

theorem text_here {segments : List String} (further : segments ≠ []) :
    Path.text ⟨.here, segments⟩ = "/".intercalate segments := by
  rw [Path.text, if_neg fun both => further both.2]
  exact String.empty_append

theorem namedFrom_display (plain : ".." ∉ directory) (proper : ∀ s ∈ file, ProperName s) (other : file ≠ directory) :
    NamedFrom directory file ((Path.ofLocation file).display directory (some (.ofLocation directory))) := by
  rw [Path.display, Path.resolve_ofLocation _ plain, Path.resolve_ofLocation _ (plain_of_proper proper)]
  cases inside : directory.isPrefixOf? file with
  | none =>
    refine .outside ?_
    rintro ⟨below, way⟩
    rw [List.isPrefixOf?_eq_some_iff_append_eq.2 way] at inside
    cases inside
  | some below =>
    have way := List.isPrefixOf?_eq_some_iff_append_eq.1 inside
    have further : below ≠ [] := by
      rintro rfl
      exact other (by rw [← way, List.append_nil])
    dsimp only
    rw [text_here further]
    exact .below below (fun s member => proper s (way ▸ List.mem_append_right directory member)) further way

theorem NamedFrom.ofString {name : String} (named : NamedFrom directory file name)
    (proper : ∀ s ∈ file, ProperName s) :
    ((Path.ofString name).anchor = .here ↔ directory <+: file) ∧ (Path.ofString name).resolve directory = file := by
  cases named with
  | below segments properSegments further way =>
    have read : Path.ofString ("/".intercalate segments) = ⟨.here, segments⟩ := by
      rw [← text_here further]
      exact Path.ofString_text properSegments
    have reached : Path.follow directory segments = directory ++ segments :=
      Path.follow_of_plain directory (plain_of_proper properSegments)
    rw [read]
    exact ⟨iff_of_true rfl ⟨segments, way⟩, reached.trans way⟩
  | outside apart =>
    have read : Path.ofString (Path.ofLocation file).text = .ofLocation file := Path.ofString_text proper
    rw [read]
    exact ⟨iff_of_false nofun apart, Path.resolve_ofLocation directory (plain_of_proper proper)⟩

end Names

section Units

variable {w : Workspace} {targets : List Path}

theorem properSources_of_wellFormed (wellFormed : w.WellFormed) : ProperSources w :=
  fun _ _ _ there _ _ => (wellFormed.named.of_get? there).2

theorem file_of_unit (wellFormed : w.WellFormed) (spelled : ∀ t ∈ targets, IsTarget w t) {u : SourceFile}
    (member : u ∈ (sourceFiles w (some (.ofLocation w.directory)) targets).value) :
    ∃ file content, w.get? file = some (.file content) ∧ u.path.resolve w.directory = file ∧
      (∀ s ∈ file, ProperName s) ∧ NamedFrom w.directory file u.unitPath := by
  have standing := wellFormed.toStanding
  rw [sourceFiles_value, List.mem_map] at member
  obtain ⟨path, listed, rfl⟩ := member
  have reached := (firstOf_sublist _ _).mem listed
  obtain ⟨file, rfl, proper⟩ :=
    path_of_mem_reached standing (properSources_of_wellFormed wellFormed) spelled reached
  have resolved : (Path.ofLocation file).resolve w.directory = file :=
    Path.resolve_ofLocation _ (plain_of_proper proper)
  obtain ⟨t, -, way, leads⟩ :=
    (mem_resolve_reached standing (fun t given => (spelled t given).existing) file).1
      (List.mem_map.2 ⟨_, reached, resolved⟩)
  obtain ⟨content, there⟩ := leads.isFile
  have other : file ≠ w.directory := by
    rintro rfl
    obtain ⟨entries, isDirectory⟩ := wellFormed.standing
    rw [Workspace.get?, isDirectory] at there
    cases there
  exact ⟨file, content, there, resolved, proper, namedFrom_display standing.plain proper other⟩

theorem fileStats_of_distinct {codes : List String} {processors : Nat} {jobs : Int} {units : List SourceFile}
    {outcomes : List Outcome} (distinct : (units.map SourceFile.unitPath).Nodup)
    (audited : (auditUnits w (RuleSet.standard codes) processors jobs units).value = .ok outcomes)
    (timestamp : String) :
    ((succeeded outcomes).map UnitResult.unitPath).Sublist (units.map SourceFile.unitPath) ∧
      ∃ r, summarize timestamp (succeeded outcomes) = .ok r ∧
        (fileStats r.statistics.perUnit).Perm (fileCounts (succeeded outcomes)) := by
  have paired := auditUnits_eq_ok_iff.1 audited
  have separate := separate_succeeded distinct paired
  refine ⟨succeeded_unitPath_sublist paired, runOf timestamp (succeeded outcomes),
    summarize_of_known (known_succeeded paired), ?_⟩
  exact (fileStats_perm (nodup_perUnit timestamp separate.distinct)).trans (List.mergeSort_perm _ _)

end Units

/-- The names of the units that are found for some targets tell the files apart. Each is the way from the working
directory or, outside of it, the whole way, and leads back to its file; so no two audited files share an entry of
the report. -/
theorem unitPath_identifies_file {w : Workspace} {homes : Homes} {given : List String} {targets : List Path}
    (wellFormed : w.WellFormed) (found : (existingTargets w homes given).value = some targets) :
    let units := (sourceFiles w (some (.ofLocation w.directory)) targets).value
    (units.map SourceFile.unitPath).Nodup ∧
      (∀ u ∈ units, ∃ file content, w.get? file = some (.file content) ∧ u.path.resolve w.directory = file ∧
        NamedFrom w.directory file u.unitPath ∧
        ((Path.ofString u.unitPath).anchor = .here ↔ w.directory <+: file) ∧
        (Path.ofString u.unitPath).resolve w.directory = file) ∧
      ∀ codes processors jobs timestamp kept outcomes, kept.Sublist units →
        (auditUnits w (RuleSet.standard codes) processors jobs kept).value = .ok outcomes →
        ((succeeded outcomes).map UnitResult.unitPath).Sublist (kept.map SourceFile.unitPath) ∧
          ∃ r, summarize timestamp (succeeded outcomes) = .ok r ∧
            (fileStats r.statistics.perUnit).Perm (fileCounts (succeeded outcomes)) := by
  have standing := wellFormed.toStanding
  have spelled := isTarget_of_existingTargets standing.plain found
  have distinct := nodup_unitPath standing (properSources_of_wellFormed wellFormed) spelled
  refine ⟨distinct, fun u member => ?_, ?_⟩
  · obtain ⟨file, content, there, resolved, proper, named⟩ := file_of_unit wellFormed spelled member
    exact ⟨file, content, there, resolved, named, named.ofString proper⟩
  · intro codes processors jobs timestamp kept outcomes part audited
    exact fileStats_of_distinct (distinct.sublist (part.map SourceFile.unitPath)) audited timestamp

/-- A working directory beside one whose name goes on where its own ends, both with a file that has a finding. -/
def neighbouringFolders : Workspace :=
  ⟨.directory [("lib", .directory [("a.py", .file [105, 110, 116, 40, 120, 41, 10])]),
    ("lib2", .directory [("a.py", .file [105, 110, 116, 40, 120, 41, 10])])], ["lib"]⟩

def neighbouringTargets : List String := ["../lib2/../lib", "..", "./a.py", "/lib2"]

def neighbouringUnits : List SourceFile :=
  [⟨.ofLocation ["lib", "a.py"], "a.py"⟩, ⟨.ofLocation ["lib2", "a.py"], "/lib2/a.py"⟩]

theorem neighbouringFolders_identified :
    neighbouringFolders.WellFormed ∧
    ∃ targets, (existingTargets neighbouringFolders ⟨none, []⟩ neighbouringTargets).value = some targets ∧
      (sourceFiles neighbouringFolders (some (.ofLocation ["lib"])) targets).value = neighbouringUnits ∧
      (∀ u ∈ neighbouringUnits, (Path.ofString u.unitPath).resolve ["lib"] = u.path.resolve ["lib"]) ∧
      ∃ outcomes r, (auditUnits neighbouringFolders (RuleSet.standard []) 4 0 neighbouringUnits).value = .ok outcomes ∧
        summarize "now" (succeeded outcomes) = .ok r ∧ (fileStats r.statistics.perUnit).length = 2 := by
  have wellFormed : neighbouringFolders.WellFormed := by
    refine ⟨?_, ⟨_, rfl⟩⟩
    simp [neighbouringFolders, FileTree.Named.directory_iff, FileTree.Named.file, ProperName]
  have found : (existingTargets neighbouringFolders ⟨none, []⟩ neighbouringTargets).value =
      some (List.map Path.ofLocation [["lib"], [], ["lib", "a.py"], ["lib2"]]) := by decide +kernel
  have units : (sourceFiles neighbouringFolders (some (.ofLocation ["lib"]))
      (List.map Path.ofLocation [["lib"], [], ["lib", "a.py"], ["lib2"]])).value = neighbouringUnits := by cbv
  obtain ⟨-, identified, separate⟩ := unitPath_identifies_file wellFormed found
  refine ⟨wellFormed, _, found, units, fun u member => ?_, ?_⟩
  · obtain ⟨file, -, -, resolved, -, -, back⟩ := identified u (units ▸ member)
    exact back.trans resolved.symm
  · have counted : ((auditUnits neighbouringFolders (RuleSet.standard []) 4 0 neighbouringUnits).value.toOption.map
        fun outcomes => (fileCounts (succeeded outcomes)).length) = some 2 := by decide +kernel
    obtain ⟨outcomes, audited⟩ :
        Succeeds (auditUnits neighbouringFolders (RuleSet.standard []) 4 0 neighbouringUnits).value :=
      .of_isOk (by decide +kernel)
    rw [audited] at counted
    obtain ⟨-, r, made, entries⟩ := separate [] 4 0 "now" _ outcomes (units ▸ List.Sublist.refl _) audited
    exact ⟨outcomes, r, audited, made, entries.length_eq.trans (Option.some.inj counted)⟩

end TypingAudit.Command
