import Mathlib.Data.List.Basic
import TypingAudit.Ast.Context

/-!
Parameter lists. The first of the positional parameters, and no other parameter, has a role that tells it as such.
Defaults are handed out slot by slot: those of positional parameters go to the last of them, across the border between
positional-only and regular ones, and each keyword-only parameter has a slot of its own.
-/

namespace TypingAudit.Ast.Params

section Roles

variable (role : Nat → Role) (first : Nat) (listed : List Param)

theorem map_snd_withRoles : (withRoles role first listed).map Prod.snd = listed := by
  induction listed generalizing first with
  | nil => rfl
  | cons p listed ih => rw [withRoles, List.map_cons, ih]

theorem getElem?_withRoles (i : Nat) :
    (withRoles role first listed)[i]? = listed[i]?.map fun p => (role (first + i), p) := by
  induction listed generalizing first i with
  | nil => rfl
  | cons p listed ih =>
    cases i with
    | zero => rfl
    | succ i => rw [withRoles, List.getElem?_cons_succ, ih, List.getElem?_cons_succ, Nat.add_right_comm, Nat.add_assoc]

theorem length_withRoles : (withRoles role first listed).length = listed.length := by
  have same := congrArg List.length (map_snd_withRoles role first listed)
  rwa [List.length_map] at same

variable {role first listed}

theorem role_of_mem_withRoles {entry : Role × Param} (member : entry ∈ withRoles role first listed) :
    ∃ i, first ≤ i ∧ entry.1 = role i := by
  obtain ⟨i, found⟩ := List.mem_iff_getElem?.1 member
  rw [getElem?_withRoles, Option.map_eq_some_iff] at found
  obtain ⟨p, -, rfl⟩ := found
  exact ⟨first + i, Nat.le_add_right first i, rfl⟩

end Roles

variable (ps : Params)

section Positional

def positionalRoles : List (Role × Param) := withRoles .posOnly 0 ps.posOnly ++ withRoles .regular 0 ps.regular

def otherRoles : List (Role × Param) :=
  ps.varArg.toList.map (.varArg, ·) ++ withRoles .kwOnly 0 ps.kwOnly ++ ps.kwArg.toList.map (.kwArg, ·)

theorem roles_eq : ps.roles = ps.positionalRoles ++ ps.otherRoles := by
  simp only [roles, positionalRoles, otherRoles, List.append_assoc]

theorem map_snd_positionalRoles : ps.positionalRoles.map Prod.snd = ps.positional := by
  rw [positionalRoles, List.map_append, map_snd_withRoles, map_snd_withRoles, positional]

theorem length_positionalRoles : ps.positionalRoles.length = ps.positional.length := by
  rw [← map_snd_positionalRoles, List.length_map]

/-- Of the positional parameters, if there are any, the first one is told by its role and the others are not. -/
theorem positionalRoles_cases :
    ps.positionalRoles = [] ∨
      ∃ entry rest, ps.positionalRoles = entry :: rest ∧ ps.isFirstPositional entry.1 = true ∧
        ∀ other ∈ rest, ps.isFirstPositional other.1 = false := by
  unfold positionalRoles
  cases posOnly : ps.posOnly with
  | nil =>
    cases ps.regular with
    | nil => exact .inl rfl
    | cons p regular =>
      refine .inr ⟨(.regular 0, p), withRoles .regular 1 regular, rfl, ?_, ?_⟩
      · simp [isFirstPositional, posOnly]
      · intro other member
        obtain ⟨i, later, is⟩ := role_of_mem_withRoles member
        have positive : i ≠ 0 := by omega
        simp [is, isFirstPositional, positive]
  | cons p rest =>
    refine .inr ⟨(.posOnly 0, p), withRoles .posOnly 1 rest ++ withRoles .regular 0 ps.regular, rfl, rfl, ?_⟩
    intro other member
    rcases List.mem_append.1 member with among | among
    · obtain ⟨i, later, is⟩ := role_of_mem_withRoles among
      have positive : i ≠ 0 := by omega
      simp [is, isFirstPositional, positive]
    · obtain ⟨i, -, is⟩ := role_of_mem_withRoles among
      simp [is, isFirstPositional, posOnly]

theorem isFirstPositional_of_mem_otherRoles {entry : Role × Param} (member : entry ∈ ps.otherRoles) :
    ps.isFirstPositional entry.1 = false := by
  simp only [otherRoles, List.mem_append, List.mem_map] at member
  rcases member with (⟨p, -, rfl⟩ | among) | ⟨p, -, rfl⟩
  · rfl
  · obtain ⟨i, -, is⟩ := role_of_mem_withRoles among
    rw [is]
    rfl
  · rfl

end Positional

/-- A parameter in its role, with the default that belongs to it. -/
structure Slot where
  role : Role
  param : Param
  default : Option Expr

namespace Slot

def entry (s : Slot) : Role × Param := (s.role, s.param)

def fill (entries : List (Role × Param)) (defaults : List (Option Expr)) : List Slot :=
  List.zipWith (fun entry default => ⟨entry.1, entry.2, default⟩) entries defaults

theorem map_entry_fill {entries : List (Role × Param)} {defaults : List (Option Expr)}
    (enough : entries.length ≤ defaults.length) : (fill entries defaults).map entry = entries := by
  induction entries generalizing defaults with
  | nil => rfl
  | cons e entries ih =>
    cases defaults with
    | nil => cases enough
    | cons d defaults => exact congrArg _ (ih (Nat.le_of_succ_le_succ enough))

theorem getElem?_of_mem_fill {entries : List (Role × Param)} {defaults : List (Option Expr)} {s : Slot}
    (member : s ∈ fill entries defaults) : ∃ i : Nat, entries[i]? = some s.entry ∧ defaults[i]? = some s.default := by
  obtain ⟨i, found⟩ := List.mem_iff_getElem?.1 member
  obtain ⟨e, d, entryFound, defaultFound, rfl⟩ := List.getElem?_zipWith_eq_some.1 found
  exact ⟨i, entryFound, defaultFound⟩

end Slot

section Slots

/-- The defaults of the positional parameters in their order: those at the beginning may have none. -/
def positionalDefaults : List (Option Expr) :=
  List.replicate (ps.positional.length - ps.defaults.length) none ++ ps.defaults.map some

def keywordDefaults : List (Option Expr) :=
  ps.kwDefaults ++ List.replicate (ps.kwOnly.length - ps.kwDefaults.length) none

def slots : List Slot :=
  Slot.fill ps.positionalRoles ps.positionalDefaults ++ ps.varArg.toList.map (⟨.varArg, ·, none⟩) ++
    Slot.fill (withRoles .kwOnly 0 ps.kwOnly) ps.keywordDefaults ++ ps.kwArg.toList.map (⟨.kwArg, ·, none⟩)

theorem map_entry_slots : ps.slots.map Slot.entry = ps.roles := by
  have positional : ps.positionalRoles.length ≤ ps.positionalDefaults.length := by
    rw [length_positionalRoles]
    simp only [positionalDefaults, List.length_append, List.length_replicate, List.length_map]
    omega
  have keywords : (withRoles .kwOnly 0 ps.kwOnly).length ≤ ps.keywordDefaults.length := by
    rw [length_withRoles]
    simp only [keywordDefaults, List.length_append, List.length_replicate]
    omega
  have varArg : (ps.varArg.toList.map (⟨.varArg, ·, none⟩)).map Slot.entry = ps.varArg.toList.map (.varArg, ·) :=
    List.map_map
  have kwArg : (ps.kwArg.toList.map (⟨.kwArg, ·, none⟩)).map Slot.entry = ps.kwArg.toList.map (.kwArg, ·) :=
    List.map_map
  rw [slots, List.map_append, List.map_append, List.map_append, Slot.map_entry_fill positional,
    Slot.map_entry_fill keywords, varArg, kwArg, roles_eq]
  simp only [otherRoles, List.append_assoc]

theorem getElem?_positionalDefaults (i : Nat) : ps.positionalDefaults[i]?.join = ps.positionalDefault? i := by
  unfold positionalDefaults positionalDefault?
  by_cases early : i < ps.positional.length - ps.defaults.length
  · rw [if_pos early, List.getElem?_append_left (by simpa using early), List.getElem?_replicate, if_pos early]
    rfl
  · rw [if_neg early, List.getElem?_append_right (by simpa using early), List.length_replicate, List.getElem?_map]
    cases ps.defaults[i - (ps.positional.length - ps.defaults.length)]? <;> rfl

theorem getElem?_keywordDefaults (i : Nat) : ps.keywordDefaults[i]?.join = ps.kwDefaults[i]?.join := by
  unfold keywordDefaults
  by_cases given : i < ps.kwDefaults.length
  · rw [List.getElem?_append_left given]
  · have beyond : ps.kwDefaults.length ≤ i := by omega
    rw [List.getElem?_append_right beyond, List.getElem?_replicate, List.getElem?_eq_none beyond]
    split <;> rfl

theorem default?_of_positionalRoles {i : Nat} {entry : Role × Param} (found : ps.positionalRoles[i]? = some entry) :
    ps.default? entry.1 = ps.positionalDefault? i := by
  unfold positionalRoles at found
  by_cases early : i < ps.posOnly.length
  · rw [List.getElem?_append_left (by rwa [length_withRoles]), getElem?_withRoles, Option.map_eq_some_iff] at found
    obtain ⟨p, -, rfl⟩ := found
    rw [default?, Nat.zero_add]
  · have beyond : ps.posOnly.length ≤ i := by omega
    rw [List.getElem?_append_right (by rwa [length_withRoles]), length_withRoles, getElem?_withRoles,
      Option.map_eq_some_iff] at found
    obtain ⟨p, -, rfl⟩ := found
    rw [default?, Nat.zero_add, Nat.add_sub_cancel' beyond]

/-- The default that is looked up for a parameter is the one in its slot. -/
theorem default?_of_mem_slots {s : Slot} (member : s ∈ ps.slots) : ps.default? s.role = s.default := by
  simp only [slots, List.mem_append, List.mem_map] at member
  rcases member with ((positional | ⟨p, -, rfl⟩) | keyword) | ⟨p, -, rfl⟩
  · obtain ⟨i, entryFound, defaultFound⟩ := Slot.getElem?_of_mem_fill positional
    calc ps.default? s.role = ps.positionalDefault? i := ps.default?_of_positionalRoles entryFound
      _ = ps.positionalDefaults[i]?.join := (ps.getElem?_positionalDefaults i).symm
      _ = s.default := by rw [defaultFound, Option.join_some]
  · rfl
  · obtain ⟨i, entryFound, defaultFound⟩ := Slot.getElem?_of_mem_fill keyword
    rw [getElem?_withRoles, Option.map_eq_some_iff] at entryFound
    obtain ⟨p, -, same⟩ := entryFound
    have is : s.role = .kwOnly i := by rw [← Nat.zero_add i]; exact (congrArg Prod.fst same).symm
    calc ps.default? s.role = ps.kwDefaults[i]?.join := by rw [is, default?]
      _ = ps.keywordDefaults[i]?.join := (ps.getElem?_keywordDefaults i).symm
      _ = s.default := by rw [defaultFound, Option.join_some]
  · rfl

end Slots

end TypingAudit.Ast.Params
