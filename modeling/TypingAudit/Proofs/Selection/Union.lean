import TypingAudit.Proofs.Selection.Discovery

/-!
Lists of targets put together. What two lists find in one run is what the first finds, followed by what the second
adds: files that are known already are left out, and all others keep the path by which they are reached, their name and
their order. So it does no harm to give a target twice, or one below which every source is found before.
-/

namespace TypingAudit.Selection

open Audit Storage

def SourceFile.place (w : Workspace) (u : SourceFile) : Location := u.path.resolve w.directory

def foundUnits (w : Workspace) (root : Option Path) (targets : List Path) : List SourceFile :=
  (sourceFiles w root targets).value

def foundPlaces (w : Workspace) (root : Option Path) (targets : List Path) : List Location :=
  (foundUnits w root targets).map (SourceFile.place w)

section FirstOf

variable {α : Type} {key : α → Location}

/-- To start with more that is known leaves out just that. -/
theorem firstOf_of_subset {known seen : List Location} (less : known ⊆ seen) (items : List α) :
    firstOf key seen items = (firstOf key known items).filter fun a => key a ∉ seen := by
  induction items generalizing known seen with
  | nil => rfl
  | cons a items ih =>
    rw [firstOf, firstOf]
    by_cases old : key a ∈ known
    · rw [if_pos (List.contains_iff_mem.2 (less old)), if_pos (List.contains_iff_mem.2 old)]
      exact ih less
    · rw [if_neg (mt List.contains_iff_mem.1 old)]
      by_cases passed : key a ∈ seen
      · rw [if_pos (List.contains_iff_mem.2 passed), List.filter_cons_of_neg (by simpa using passed)]
        exact ih (List.cons_subset.2 ⟨passed, less⟩)
      · rw [if_neg (mt List.contains_iff_mem.1 passed), List.filter_cons_of_pos (by simpa using passed),
          ih (List.cons_subset_cons (key a) less)]
        congr 1
        apply List.filter_congr
        intro b member
        -- An item with the key of the first one does not come again, so the larger list leaves out no more here.
        have other : key b ≠ key a := by
          intro same
          have again := (mem_map_firstOf _ _ _).1 (List.mem_map_of_mem member)
          exact again.2 (same ▸ List.mem_cons_self)
        simp [other]

theorem firstOf_append_eq (first second : List α) :
    firstOf key [] (first ++ second) =
      firstOf key [] first ++
        (firstOf key [] second).filter fun a => key a ∉ (firstOf key [] first).map key := by
  obtain ⟨known, remembered, split⟩ := @firstOf_append α key [] first second
  rw [split, firstOf_of_subset (List.nil_subset known)]
  congr 1
  apply List.filter_congr
  intro a _
  simp [remembered, mem_map_firstOf]

end FirstOf

section Found

variable {w : Workspace} {root : Option Path}

theorem foundUnits_eq (targets : List Path) :
    foundUnits w root targets = (firstOf (Path.resolve w.directory) [] (reached w targets)).map fun path =>
      SourceFile.mk path (path.display w.directory root) :=
  sourceFiles_value root

theorem foundPlaces_eq (targets : List Path) :
    foundPlaces w root targets =
      (firstOf (Path.resolve w.directory) [] (reached w targets)).map (Path.resolve w.directory) := by
  rw [foundPlaces, foundUnits_eq, List.map_map]
  rfl

theorem foundUnits_append (ts us : List Path) :
    foundUnits w root (ts ++ us) =
      foundUnits w root ts ++ (foundUnits w root us).filter fun u => u.place w ∉ foundPlaces w root ts := by
  have together : reached w (ts ++ us) = reached w ts ++ reached w us := List.flatMap_append
  rw [foundPlaces_eq, foundUnits_eq, foundUnits_eq, foundUnits_eq, together, firstOf_append_eq, List.map_append,
    List.filter_map]
  rfl

theorem foundUnits_of_known {ts : List Path} {t : Path}
    (known : ∀ u ∈ foundUnits w root [t], u.place w ∈ foundPlaces w root ts) (us : List Path) :
    foundUnits w root (ts ++ t :: us) = foundUnits w root (ts ++ us) := by
  have nothing : (foundUnits w root [t]).filter (fun u => u.place w ∉ foundPlaces w root ts) = [] := by
    rw [List.filter_eq_nil_iff]
    intro u member
    simpa using known u member
  have here : foundUnits w root (ts ++ [t]) = foundUnits w root ts := by
    rw [foundUnits_append, nothing, List.append_nil]
  have places : foundPlaces w root (ts ++ [t]) = foundPlaces w root ts := by rw [foundPlaces, here, foundPlaces]
  calc foundUnits w root (ts ++ t :: us)
      = foundUnits w root ((ts ++ [t]) ++ us) := by rw [List.append_assoc, List.singleton_append]
    _ = foundUnits w root (ts ++ us) := by rw [foundUnits_append, here, places, ← foundUnits_append]

theorem place_mem_of_repeated {ts : List Path} {t : Path} (given : t ∈ ts) :
    ∀ u ∈ foundUnits w root [t], u.place w ∈ foundPlaces w root ts := by
  intro u member
  have reachedHere : u.place w ∈ (reached w [t]).map (Path.resolve w.directory) := by
    have listed : u.place w ∈ foundPlaces w root [t] := List.mem_map_of_mem member
    rw [foundPlaces_eq] at listed
    exact ((mem_map_firstOf _ _ _).1 listed).1
  have further : reached w [t] ⊆ reached w ts := by
    intro path reaches
    rw [reached, List.flatMap_singleton] at reaches
    exact List.mem_flatMap.2 ⟨t, given, reaches⟩
  rw [foundPlaces_eq, mem_map_firstOf]
  exact ⟨List.map_subset _ further reachedHere, List.not_mem_nil⟩

end Found

/-- Targets that are put together find an ordered union: first all that the first ones find, then what the others find
at places that are new. A target that is repeated, or that leads to known places only, changes nothing. -/
theorem foundUnits_is_ordered_union (w : Workspace) (root : Option Path) (ts us : List Path) :
    foundUnits w root (ts ++ us) =
        foundUnits w root ts ++ (foundUnits w root us).filter (fun u => u.place w ∉ foundPlaces w root ts) ∧
      (∀ t ∈ ts, foundUnits w root (ts ++ t :: us) = foundUnits w root (ts ++ us)) ∧
      ∀ t, (∀ u ∈ foundUnits w root [t], u.place w ∈ foundPlaces w root ts) →
        foundUnits w root (ts ++ t :: us) = foundUnits w root (ts ++ us) := by
  refine ⟨foundUnits_append ts us, ?_, ?_⟩
  · intro t given
    exact foundUnits_of_known (place_mem_of_repeated given) us
  · intro t known
    exact foundUnits_of_known known us

def roundaboutTargets : List Path := [⟨.here, ["b.py"]⟩, ⟨.here, ["src", "..", "src"]⟩]

def plainTargets : List Path := [⟨.root, ["src"]⟩, ⟨.here, ["a.py"]⟩]

theorem roundaboutTargets_united :
    foundUnits layeredFolder none (roundaboutTargets ++ plainTargets) =
        foundUnits layeredFolder none roundaboutTargets ++ [⟨⟨.here, ["a.py"]⟩, "a.py"⟩] ∧
      foundUnits layeredFolder none (roundaboutTargets ++ ⟨.here, ["b.py"]⟩ :: plainTargets) =
        foundUnits layeredFolder none (roundaboutTargets ++ plainTargets) ∧
      foundUnits layeredFolder none [⟨.root, ["src", "pkg"]⟩] =
        [⟨⟨.root, ["src", "pkg", "m.py"]⟩, "/src/pkg/m.py"⟩] ∧
      foundUnits layeredFolder none (roundaboutTargets ++ ⟨.root, ["src", "pkg"]⟩ :: plainTargets) =
        foundUnits layeredFolder none (roundaboutTargets ++ plainTargets) := by
  have below : foundUnits layeredFolder none [⟨.root, ["src", "pkg"]⟩] =
      [⟨⟨.root, ["src", "pkg", "m.py"]⟩, "/src/pkg/m.py"⟩] := by decide +kernel
  have places : foundPlaces layeredFolder none roundaboutTargets =
      [["b.py"], ["src", "z.py"], ["src", "pkg", "m.py"]] := by decide +kernel
  obtain ⟨united, again, within⟩ := foundUnits_is_ordered_union layeredFolder none roundaboutTargets plainTargets
  refine ⟨united.trans ?_, again ⟨.here, ["b.py"]⟩ (by decide), below, within ⟨.root, ["src", "pkg"]⟩ ?_⟩
  · rw [places]
    decide +kernel
  · rw [below, places]
    decide

end TypingAudit.Selection
