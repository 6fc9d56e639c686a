import Mathlib.Data.List.Nodup
import TypingAudit.Proofs.Ast.Parameters
import TypingAudit.Proofs.Source.Readers
import TypingAudit.Source.Grammar.Atom

/-!
Defaults and the parameters they belong to. The default of a parameter can be looked up by where the parameter stands
among its like: the defaults of positional parameters are counted from the end of both lists, and keyword-only
parameters have a slot each. No look-up leaves its list, every default has one parameter, and in a parameter list that
was read each parameter has the default that was written behind it.
-/

namespace TypingAudit.Ast

structure OutOfRange where
  index : Int

/-- The entry of a list under a number, where negative numbers count from the end. -/
def entryAt {α : Type} (items : List α) (index : Int) : Except OutOfRange α :=
  let place := if index < 0 then items.length + index else index
  if place < 0 then .error ⟨index⟩
  else
    match items[place.toNat]? with
    | some entry => .ok entry
    | none => .error ⟨index⟩

theorem entryAt_natCast {α : Type} {items : List α} {n : Nat} {entry : α} (found : items[n]? = some entry) :
    entryAt items n = .ok entry := by
  have positive : ¬(n : Int) < 0 := by omega
  simp only [entryAt, if_neg positive, Int.toNat_natCast, found]

namespace Params

variable (ps : Params)

/-- There are no more defaults than positional parameters, and each keyword-only parameter has a slot. -/
structure DefaultsFit : Prop where
  few : ps.defaults.length ≤ ps.positional.length
  slots : ps.kwDefaults.length = ps.kwOnly.length

/-- The default of a parameter, looked up by where the parameter stands. -/
def lookUpDefault (role : Role) : Except OutOfRange (Option Expr) :=
  let positional := ps.positionalRoles.map Prod.fst
  let kwOnly := (withRoles .kwOnly 0 ps.kwOnly).map Prod.fst
  if role ∈ positional then
    let offset : Int := positional.length - ps.defaults.length
    let index := positional.idxOf role - offset
    if index ≥ 0 then some <$> entryAt ps.defaults index else .ok none
  else if role ∈ kwOnly then entryAt ps.kwDefaults (kwOnly.idxOf role)
  else .ok none

section Roles

theorem map_fst_withRoles (role : Nat → Role) (first : Nat) (listed : List Param) :
    (withRoles role first listed).map Prod.fst = (List.range' first listed.length).map role := by
  induction listed generalizing first with
  | nil => rfl
  | cons p listed ih => rw [withRoles, List.map_cons, ih, List.length_cons, List.range'_succ, List.map_cons]

theorem nodup_withRoles {role : Nat → Role} (injective : Function.Injective role) (first : Nat) (listed : List Param) :
    ((withRoles role first listed).map Prod.fst).Nodup := by
  rw [map_fst_withRoles]
  exact List.Nodup.map injective (List.nodup_range' _)

theorem nodup_kwOnly : ((withRoles .kwOnly 0 ps.kwOnly).map Prod.fst).Nodup :=
  nodup_withRoles (fun _ _ same => Role.kwOnly.inj same) 0 ps.kwOnly

theorem nodup_positionalRoles : (ps.positionalRoles.map Prod.fst).Nodup := by
  rw [positionalRoles, List.map_append]
  refine List.Nodup.append (nodup_withRoles (fun _ _ same => Role.posOnly.inj same) 0 _)
    (nodup_withRoles (fun _ _ same => Role.regular.inj same) 0 _) ?_
  intro role among later
  rw [map_fst_withRoles, List.mem_map] at among later
  obtain ⟨i, -, rfl⟩ := among
  obtain ⟨j, -, same⟩ := later
  cases same

end Roles

section LookUp

variable {ps} {i : Nat} {entry : Role × Param}

theorem idxOf_of_getElem? {roles : List Role} (nodup : roles.Nodup) {role : Role} (found : roles[i]? = some role) :
    roles.idxOf role = i := by
  obtain ⟨within, rfl⟩ := List.getElem?_eq_some_iff.1 found
  exact nodup.idxOf_getElem i within

theorem mem_positional_iff (role : Role) :
    role ∈ ps.positionalRoles.map Prod.fst ↔
      (∃ i < ps.posOnly.length, role = .posOnly i) ∨ ∃ i < ps.regular.length, role = .regular i := by
  rw [positionalRoles, List.map_append, map_fst_withRoles, map_fst_withRoles]
  simp [eq_comm]

theorem lookUpDefault_positional (fit : ps.DefaultsFit) (found : ps.positionalRoles[i]? = some entry) :
    ps.lookUpDefault entry.1 = .ok (ps.default? entry.1) := by
  have named : (ps.positionalRoles.map Prod.fst)[i]? = some entry.1 := by
    rw [List.getElem?_map, found, Option.map_some]
  have within : i < ps.positional.length := by
    rw [← length_positionalRoles]
    exact (List.getElem?_eq_some_iff.1 found).1
  have few := fit.few
  rw [ps.default?_of_positionalRoles found, positionalDefault?, lookUpDefault]
  simp only [if_pos (List.mem_of_getElem? named), idxOf_of_getElem? ps.nodup_positionalRoles named, List.length_map,
    length_positionalRoles]
  by_cases early : i < ps.positional.length - ps.defaults.length
  · rw [if_pos early, if_neg (by omega)]
  · have inside : i - (ps.positional.length - ps.defaults.length) < ps.defaults.length := by omega
    have place : (i : Int) - ((ps.positional.length : Int) - ps.defaults.length) =
        ((i - (ps.positional.length - ps.defaults.length) : Nat) : Int) := by omega
    rw [if_neg early, if_pos (by omega), place, List.getElem?_eq_getElem inside,
      entryAt_natCast (List.getElem?_eq_getElem inside)]
    rfl

theorem role_of_kwOnly (found : (withRoles .kwOnly 0 ps.kwOnly)[i]? = some entry) : entry.1 = .kwOnly i := by
  rw [getElem?_withRoles, Option.map_eq_some_iff] at found
  obtain ⟨p, -, rfl⟩ := found
  rw [Nat.zero_add]

theorem default?_of_kwOnly (fit : ps.DefaultsFit) (found : (withRoles .kwOnly 0 ps.kwOnly)[i]? = some entry) :
    ps.kwDefaults[i]? = some (ps.default? entry.1) := by
  have within : i < ps.kwDefaults.length := by
    rw [fit.slots, ← length_withRoles .kwOnly 0 ps.kwOnly]
    exact (List.getElem?_eq_some_iff.1 found).1
  rw [role_of_kwOnly found, default?, List.getElem?_eq_getElem within, Option.join_some]

theorem lookUpDefault_kwOnly (fit : ps.DefaultsFit) (found : (withRoles .kwOnly 0 ps.kwOnly)[i]? = some entry) :
    ps.lookUpDefault entry.1 = .ok (ps.default? entry.1) := by
  have named : ((withRoles .kwOnly 0 ps.kwOnly).map Prod.fst)[i]? = some entry.1 := by
    rw [List.getElem?_map, found, Option.map_some]
  have other : entry.1 ∉ ps.positionalRoles.map Prod.fst := by
    rw [mem_positional_iff, role_of_kwOnly found]
    rintro (⟨j, -, same⟩ | ⟨j, -, same⟩) <;> cases same
  rw [lookUpDefault]
  simp only [if_neg other, if_pos (List.mem_of_getElem? named), idxOf_of_getElem? ps.nodup_kwOnly named]
  exact entryAt_natCast (default?_of_kwOnly fit found)

theorem lookUpDefault_rest {role : Role} (rest : role = .varArg ∨ role = .kwArg) :
    ps.lookUpDefault role = .ok (ps.default? role) := by
  have noPositional : role ∉ ps.positionalRoles.map Prod.fst := by
    rw [mem_positional_iff]
    rcases rest with rfl | rfl <;> simp
  have noKwOnly : role ∉ (withRoles .kwOnly 0 ps.kwOnly).map Prod.fst := by
    rw [map_fst_withRoles]
    rcases rest with rfl | rfl <;> simp
  rw [lookUpDefault]
  simp only [if_neg noPositional, if_neg noKwOnly]
  rcases rest with rfl | rfl <;> rfl

theorem lookUpDefault_eq (fit : ps.DefaultsFit) (listed : entry ∈ ps.roles) :
    ps.lookUpDefault entry.1 = .ok (ps.default? entry.1) := by
  rw [roles_eq, otherRoles] at listed
  simp only [List.mem_append, List.mem_map] at listed
  rcases listed with positional | (⟨p, -, rfl⟩ | kwOnly) | ⟨p, -, rfl⟩
  · obtain ⟨i, found⟩ := List.mem_iff_getElem?.1 positional
    exact lookUpDefault_positional fit found
  · exact lookUpDefault_rest (.inl rfl)
  · obtain ⟨i, found⟩ := List.mem_iff_getElem?.1 kwOnly
    exact lookUpDefault_kwOnly fit found
  · exact lookUpDefault_rest (.inr rfl)

end LookUp

section Pairing

/-- Whatever stands in the list of defaults, the parameter in a role gets the entry with the number `j`. -/
def TakesDefault (role : Role) (j : Nat) : Prop :=
  ∀ others : List Expr, others.length = ps.defaults.length →
    ({ ps with defaults := others } : Params).default? role = others[j]?

variable {ps} {i j : Nat} {entry : Role × Param}

def numbered (count : Nat) : List Expr := (List.range count).map fun (n : Nat) => .constant ⟨1, 0⟩ (.int n)

theorem numbered_inj {count : Nat} (within : j < count) (same : (numbered count)[i]? = (numbered count)[j]?) :
    i = j := by
  rw [numbered, List.getElem?_map, List.getElem?_map, List.getElem?_range within, Option.map_some,
    Option.map_eq_some_iff] at same
  obtain ⟨n, found, equal⟩ := same
  obtain ⟨inside, rfl⟩ := List.getElem?_eq_some_iff.1 found
  simpa using equal

theorem takesDefault_iff (fit : ps.DefaultsFit) (found : ps.positionalRoles[i]? = some entry)
    (within : j < ps.defaults.length) :
    ps.TakesDefault entry.1 j ↔ i + ps.defaults.length = j + ps.positional.length := by
  have few := fit.few
  have replaced (others : List Expr) (same : others.length = ps.defaults.length) :
      ({ ps with defaults := others } : Params).default? entry.1 =
        if i < ps.positional.length - ps.defaults.length then none
        else others[i - (ps.positional.length - ps.defaults.length)]? := by
    rw [← same]
    exact default?_of_positionalRoles { ps with defaults := others } found
  constructor
  · intro takes
    have count : (numbered ps.defaults.length).length = ps.defaults.length := by simp [numbered]
    have taken := takes (numbered ps.defaults.length) count
    rw [replaced _ count] at taken
    by_cases early : i < ps.positional.length - ps.defaults.length
    · rw [if_pos early, List.getElem?_eq_getElem (by rwa [count])] at taken
      cases taken
    · rw [if_neg early] at taken
      have place := numbered_inj within taken
      omega
  · intro aligned others same
    have late : ¬i < ps.positional.length - ps.defaults.length := by omega
    have place : i - (ps.positional.length - ps.defaults.length) = j := by omega
    rw [replaced others same, if_neg late, place]

theorem existsUnique_takesDefault (fit : ps.DefaultsFit) (within : j < ps.defaults.length) :
    ∃! i : Nat, ∃ entry, ps.positionalRoles[i]? = some entry ∧ ps.TakesDefault entry.1 j := by
  have few := fit.few
  have inside : j + ps.positional.length - ps.defaults.length < ps.positionalRoles.length := by
    rw [length_positionalRoles]
    omega
  refine ⟨j + ps.positional.length - ps.defaults.length, ⟨_, List.getElem?_eq_getElem inside, ?_⟩, ?_⟩
  · rw [takesDefault_iff fit (List.getElem?_eq_getElem inside) within]
    omega
  · intro i paired
    obtain ⟨entry, found, takes⟩ := paired
    rw [takesDefault_iff fit found within] at takes
    omega

theorem default?_of_early (found : ps.positionalRoles[i]? = some entry)
    (early : i + ps.defaults.length < ps.positional.length) : ps.default? entry.1 = none := by
  rw [ps.default?_of_positionalRoles found, positionalDefault?]
  exact if_pos (by omega)

end Pairing

section Order

theorem map_default_fill {entries : List (Role × Param)} {defaults : List (Option Expr)}
    (same : entries.length = defaults.length) : (Slot.fill entries defaults).map Slot.default = defaults := by
  induction entries generalizing defaults with
  | nil => exact (List.length_eq_zero_iff.1 same.symm).symm
  | cons e entries ih =>
    cases defaults with
    | nil => cases same
    | cons d defaults => exact congrArg _ (ih (Nat.succ.inj same))

variable {ps}

theorem map_default?_roles (fit : ps.DefaultsFit) :
    (ps.roles.map fun e => ps.default? e.1) =
      ps.positionalDefaults ++ ps.varArg.toList.map (fun _ => none) ++ ps.kwDefaults ++
        ps.kwArg.toList.map fun _ => none := by
  have few := fit.few
  have looked : (ps.roles.map fun e => ps.default? e.1) = ps.slots.map Slot.default := by
    rw [← map_entry_slots, List.map_map]
    exact List.map_congr_left fun slot member => ps.default?_of_mem_slots member
  have positional : ps.positionalRoles.length = ps.positionalDefaults.length := by
    rw [length_positionalRoles]
    simp only [positionalDefaults, List.length_append, List.length_replicate, List.length_map]
    omega
  have all : ps.keywordDefaults = ps.kwDefaults := by
    rw [keywordDefaults, fit.slots, Nat.sub_self, List.replicate_zero, List.append_nil]
  have keywords : (withRoles .kwOnly 0 ps.kwOnly).length = ps.kwDefaults.length := by
    rw [length_withRoles, fit.slots]
  rw [looked, slots, all, List.map_append, List.map_append, List.map_append, map_default_fill positional,
    map_default_fill keywords, List.map_map, List.map_map]
  rfl

theorem filterMap_default?_roles (fit : ps.DefaultsFit) :
    ps.roles.filterMap (fun e => ps.default? e.1) = ps.defaults ++ ps.kwDefaults.filterMap id := by
  have nothing (taken : Option Param) : (taken.toList.map fun _ => (none : Option Expr)).filterMap id = [] := by
    cases taken <;> rfl
  have positional : ps.positionalDefaults.filterMap id = ps.defaults := by
    rw [positionalDefaults, List.filterMap_append]
    simp
  have through : ps.roles.filterMap (fun e => ps.default? e.1) =
      (ps.roles.map fun e => ps.default? e.1).filterMap id := by
    rw [List.filterMap_map]
    rfl
  rw [through, map_default?_roles fit, List.filterMap_append, List.filterMap_append, List.filterMap_append, positional,
    nothing, nothing, List.append_nil, List.append_nil]

end Order

end Params

end TypingAudit.Ast

namespace TypingAudit.Source.Grammar

open Ast

namespace ParamsSoFar

def inOrder (s : ParamsSoFar) : List WithDefault := (s.posOnly.getD []).reverse ++ s.positional.reverse

def written (s : ParamsSoFar) : List WithDefault :=
  s.inOrder ++ s.varArg.toList.map (·, none) ++ s.kwOnly.reverse ++ s.kwArg.toList.map (·, none)

/-- Behind a positional parameter with a default, all have one. -/
def Ordered (s : ParamsSoFar) : Prop := s.inOrder.Pairwise fun a b => a.2.isSome = true → b.2.isSome = true

theorem Ordered.add {s s' : ParamsSoFar} (ordered : s.Ordered) {param : Param} {default : Option Expr}
    (added : s.add param default = some s') : s'.Ordered := by
  unfold ParamsSoFar.add at added
  split at added
  · cases added
    exact ordered
  · split at added
    · cases added
    next allowed =>
      cases added
      have order : s.inOrder ++ [(param, default)] =
          inOrder { s with positional := (param, default) :: s.positional } := by
        simp [inOrder]
      rw [Ordered, ← order, List.pairwise_append]
      refine ⟨ordered, List.pairwise_singleton _ _, ?_⟩
      intro earlier member last isLast given
      rw [List.mem_singleton.1 isLast]
      by_contra missing
      apply allowed
      have some : s.hasDefault = true := by
        rw [hasDefault, List.any_eq_true]
        exact ⟨earlier, by simpa [inOrder] using member, given⟩
      rw [some, Bool.true_and]
      simpa using missing

theorem Ordered.slash {s s' : ParamsSoFar} (ordered : s.Ordered) (ended : s.slash = some s') : s'.Ordered := by
  unfold ParamsSoFar.slash at ended
  split at ended
  · cases ended
  next allowed =>
    cases ended
    have first : s.posOnly = none := by
      cases posOnly : s.posOnly with
      | none => rfl
      | some read => simp [posOnly] at allowed
    have order : inOrder { s with posOnly := some s.positional, positional := [] } = s.inOrder := by
      simp [inOrder, first]
    rw [Ordered, order]
    exact ordered

theorem Ordered.yields {s : ParamsSoFar} (ordered : s.Ordered) (inner : Rules) (style : ParamStyle) :
    Yields (fun _ => True) Ordered (paramEntry inner style s) := by
  have again : ∀ s' : ParamsSoFar, s'.posOnly = s.posOnly → s'.positional = s.positional → s'.Ordered := by
    intro s' posOnly positional
    rw [Ordered, inOrder, posOnly, positional]
    exact ordered
  unfold paramEntry
  dsimp only
  refine .ite .failed (.after fun slash => .ite ?_ (.after fun stars => .ite ?_ (.after fun star => .ite ?_ ?_)))
  · exact .bind (.orFail fun s' ended => ordered.slash ended) fun s' kept => .after fun _ => .pure kept
  · exact .after fun pos => .after fun id => .after fun type => .after fun _ => .pure (again _ rfl rfl)
  · refine .ite .failed (.after fun bare => .ite ?_ ?_)
    · exact .after fun _ => .pure (again _ rfl rfl)
    · exact .after fun pos => .after fun id => .after fun type => .after fun _ => .pure (again _ rfl rfl)
  · refine .after fun pos => .after fun id => .after fun type => .after fun given => .ite ?_ ?_
    · exact .after fun default => .after fun _ => .orFail fun s' added => ordered.add added
    · exact .after fun default => .after fun _ => .orFail fun s' added => ordered.add added

section Finish

variable (s : ParamsSoFar)

theorem positional_finish : s.finish.positional = s.inOrder.map Prod.fst := by
  simp [finish, Params.positional, inOrder]

theorem defaults_finish : s.finish.defaults = s.inOrder.filterMap Prod.snd := by
  simp [finish, inOrder]

theorem defaultsFit_finish : s.finish.DefaultsFit where
  few := by
    rw [positional_finish, defaults_finish, List.length_map]
    exact List.length_filterMap_le _ _
  slots := by simp [finish]

theorem map_some_filterMap {listed : List WithDefault} (given : ∀ entry ∈ listed, entry.2.isSome = true) :
    (listed.filterMap Prod.snd).map some = listed.map Prod.snd := by
  induction listed with
  | nil => rfl
  | cons entry listed ih =>
    obtain ⟨first, rest⟩ := List.forall_mem_cons.1 given
    obtain ⟨value, present⟩ := Option.isSome_iff_exists.1 first
    rw [List.filterMap_cons_some present, List.map_cons, ih rest, List.map_cons, present]

/-- Where no parameter without a default follows one that has a default, the defaults fill the end of the list. -/
theorem replicate_append_defaults {listed : List WithDefault}
    (ordered : listed.Pairwise fun a b => a.2.isSome = true → b.2.isSome = true) :
    List.replicate (listed.length - (listed.filterMap Prod.snd).length) none ++
      (listed.filterMap Prod.snd).map some = listed.map Prod.snd := by
  induction listed with
  | nil => rfl
  | cons entry listed ih =>
    obtain ⟨later, rest⟩ := List.pairwise_cons.1 ordered
    cases default : entry.2 with
    | none =>
      have few : (listed.filterMap Prod.snd).length ≤ listed.length := List.length_filterMap_le _ _
      have gap : listed.length + 1 - (listed.filterMap Prod.snd).length =
          (listed.length - (listed.filterMap Prod.snd).length) + 1 := by omega
      rw [List.filterMap_cons_none default, List.length_cons, gap, List.replicate_succ, List.cons_append, ih rest,
        List.map_cons, default]
    | some value =>
      have given : ∀ e ∈ entry :: listed, e.2.isSome = true := by
        have first : entry.2.isSome = true := by rw [default]; rfl
        exact List.forall_mem_cons.2 ⟨first, fun e member => later e member first⟩
      have whole := map_some_filterMap given
      have count := congrArg List.length whole
      rw [List.length_map, List.length_map] at count
      rw [count, Nat.sub_self, List.replicate_zero, List.nil_append, whole]

variable {s}

theorem Ordered.map_roles_finish (ordered : s.Ordered) :
    (s.finish.roles.map fun e => (e.2, s.finish.default? e.1)) = s.written := by
  have params : s.finish.roles.map Prod.snd = s.written.map Prod.fst := by
    rw [Params.roles_eq, List.map_append, Params.map_snd_positionalRoles, positional_finish]
    simp [Params.otherRoles, written, Params.map_snd_withRoles, finish, Function.comp_def]
  have positional : s.finish.positionalDefaults = s.inOrder.map Prod.snd := by
    rw [Params.positionalDefaults, positional_finish, defaults_finish, List.length_map]
    exact replicate_append_defaults ordered
  have defaults : (s.finish.roles.map fun e => s.finish.default? e.1) = s.written.map Prod.snd := by
    rw [Params.map_default?_roles s.defaultsFit_finish, positional]
    simp [written, finish, Function.comp_def]
  calc (s.finish.roles.map fun e => (e.2, s.finish.default? e.1))
    _ = (s.written.map Prod.fst).zip (s.written.map Prod.snd) := by
      apply List.zip_of_prod
      · rw [List.map_map, ← params]
        rfl
      · rw [List.map_map, ← defaults]
        rfl
    _ = s.written := (List.zip_of_prod rfl rfl).symm

end Finish

end ParamsSoFar

end TypingAudit.Source.Grammar

namespace TypingAudit.Ast.Params

open Source (Token Lexeme)
open Source.Grammar (Rules ParamStyle ParamsSoFar Yields)

/-- The defaults of positional parameters belong to the last of them, one by one and across the border to the regular
ones, those of keyword-only parameters stand in their slots, and no look-up leaves its list. So in a parameter list that
was read, each parameter has the default that was written behind it. -/
theorem defaults_pair_from_end :
    (∀ ps : Params, ps.DefaultsFit →
      (∀ entry ∈ ps.roles, ps.lookUpDefault entry.1 = .ok (ps.default? entry.1)) ∧
      (∀ (i : Nat) entry, ps.positionalRoles[i]? = some entry →
        (∀ j < ps.defaults.length,
          (ps.TakesDefault entry.1 j ↔ i + ps.defaults.length = j + ps.positional.length) ∧
          (i + ps.defaults.length = j + ps.positional.length → ps.default? entry.1 = ps.defaults[j]?)) ∧
        (i + ps.defaults.length < ps.positional.length → ps.default? entry.1 = none)) ∧
      (∀ (i : Nat) entry, (withRoles .kwOnly 0 ps.kwOnly)[i]? = some entry →
        ps.kwDefaults[i]? = some (ps.default? entry.1)) ∧
      ps.default? .varArg = none ∧ ps.default? .kwArg = none ∧
      (∀ j < ps.defaults.length,
        ∃! i : Nat, ∃ entry, ps.positionalRoles[i]? = some entry ∧ ps.TakesDefault entry.1 j) ∧
      ps.roles.filterMap (fun e => ps.default? e.1) = ps.defaults ++ ps.kwDefaults.filterMap id) ∧
    ∀ (inner : Rules) (style : ParamStyle) (tokens rest : List Token) (s : ParamsSoFar),
      Source.Grammar.extendWhile (Source.Grammar.paramEntry inner style) inner.limit .start tokens = some (s, rest) →
      Source.Grammar.params inner style tokens = some (s.finish, rest) ∧ s.finish.DefaultsFit ∧
        (s.finish.roles.map fun e => (e.2, s.finish.default? e.1)) = s.written := by
  constructor
  · intro ps fit
    refine ⟨fun entry listed => lookUpDefault_eq fit listed, ?_, ?_, rfl, rfl, ?_, filterMap_default?_roles fit⟩
    · intro i entry found
      refine ⟨?_, default?_of_early found⟩
      intro j within
      have paired := takesDefault_iff fit found within
      exact ⟨paired, fun aligned => paired.2 aligned ps.defaults rfl⟩
    · intro i entry found
      exact default?_of_kwOnly fit found
    · intro j within
      exact existsUnique_takesDefault fit within
  · intro inner style tokens rest s read
    have ordered : s.Ordered := by
      have start : ParamsSoFar.start.Ordered := List.Pairwise.nil
      have entries := Yields.extendWhile (fun a kept => kept.yields inner style) inner.limit start
      exact (entries tokens s rest (fun _ _ => trivial) read).1
    refine ⟨?_, s.defaultsFit_finish, ordered.map_roles_finish⟩
    exact Option.bind_eq_some_iff.2 ⟨(s, rest), read, rfl⟩

def atomsOnly : Rules := { Rules.none 9 with expression := Source.Grammar.primary (Rules.none 9) }

def plainParam (column : Nat) (name : String) : Param := ⟨⟨1, column⟩, name, none⟩

def numberAt (column n : Nat) : Expr := .constant ⟨1, column⟩ (.int n)

/-- The tokens of `a, b=1, /, c=2, *v, d, e=3, **k)`, each in its own column. -/
def mixedTokens : List Token :=
  let lexemes : List Lexeme := [.name "a", .op ",", .name "b", .op "=", .number (.int 1), .op ",", .op "/", .op ",",
    .name "c", .op "=", .number (.int 2), .op ",", .op "*", .name "v", .op ",", .name "d", .op ",", .name "e", .op "=",
    .number (.int 3), .op ",", .op "**", .name "k", .op ")"]
  lexemes.zipIdx.map fun numbered => ⟨numbered.1, ⟨1, numbered.2⟩⟩

def mixedRead : ParamsSoFar where
  posOnly := some [(plainParam 2 "b", some (numberAt 4 1)), (plainParam 0 "a", none)]
  positional := [(plainParam 8 "c", some (numberAt 10 2))]
  varArg := some (plainParam 13 "v")
  starred := true
  kwOnly := [(plainParam 17 "e", some (numberAt 19 3)), (plainParam 15 "d", none)]
  kwArg := some (plainParam 22 "k")

theorem mixedRead_paired :
    (mixedRead.finish.roles.map fun e => (e.2, mixedRead.finish.default? e.1)) =
      [(plainParam 0 "a", none), (plainParam 2 "b", some (numberAt 4 1)), (plainParam 8 "c", some (numberAt 10 2)),
        (plainParam 13 "v", none), (plainParam 15 "d", none), (plainParam 17 "e", some (numberAt 19 3)),
        (plainParam 22 "k", none)] ∧
    mixedRead.finish.TakesDefault (.posOnly 1) 0 ∧ mixedRead.finish.TakesDefault (.regular 0) 1 ∧
    mixedRead.finish.lookUpDefault (.kwOnly 1) = .ok (some (numberAt 19 3)) := by
  have read : Source.Grammar.extendWhile (Source.Grammar.paramEntry atomsOnly .signature) 9 .start mixedTokens =
      some (mixedRead, mixedTokens.drop 23) := rfl
  obtain ⟨-, fit, paired⟩ := defaults_pair_from_end.2 atomsOnly .signature mixedTokens _ mixedRead read
  obtain ⟨lookUp, positional, -⟩ := defaults_pair_from_end.1 mixedRead.finish fit
  refine ⟨paired, ?_, ?_, ?_⟩
  · exact ((positional 1 (.posOnly 1, plainParam 2 "b") rfl).1 0 (by decide)).1.2 rfl
  · exact ((positional 2 (.regular 0, plainParam 8 "c") rfl).1 1 (by decide)).1.2 rfl
  · exact lookUp (.kwOnly 1, plainParam 17 "e") (List.mem_of_getElem? (i := 5) rfl)

end TypingAudit.Ast.Params
