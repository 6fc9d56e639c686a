import TypingAudit.Audit.Log

/-!
Computations that may fail, and computations that leave a log. What is said here of one step is used of
whole runs: a left fold succeeds when each of its steps does, and keeps what each of them keeps.
-/

namespace TypingAudit

section Ok

variable {δ ε α β : Type}

theorem map_eq_ok_iff {x : Except ε α} {f : α → β} {b : β} :
    x.map f = .ok b ↔ ∃ a, x = .ok a ∧ f a = b := by
  cases x with
  | error e => simp [Except.map]
  | ok a => simp [Except.map]

theorem exists_ok_of_map {x : Except ε α} {test : α → Bool} {p : Prop} (evaluated : x.map test = .ok true ∧ p) :
    ∃ a, x = .ok a ∧ test a = true ∧ p := by
  obtain ⟨tested, holds⟩ := evaluated
  obtain ⟨a, value, passes⟩ := map_eq_ok_iff.1 tested
  exact ⟨a, value, passes, holds⟩

theorem bind_eq_ok_iff {x : Except ε α} {f : α → Except ε β} {b : β} :
    x >>= f = .ok b ↔ ∃ a, x = .ok a ∧ f a = .ok b := by
  cases x with
  | error e => simp [bind, Except.bind]
  | ok a => simp [bind, Except.bind]

theorem mapError_eq_ok_iff {x : Except ε α} {f : ε → δ} {a : α} :
    x.mapError f = .ok a ↔ x = .ok a := by
  cases x with
  | error e =>
    constructor
    · intro impossible
      cases impossible
    · intro impossible
      cases impossible
  | ok value =>
    constructor
    · intro same
      cases same
      rfl
    · intro same
      cases same
      rfl

end Ok

def Succeeds {ε α : Type} (x : Except ε α) : Prop := ∃ a, x = .ok a

namespace Succeeds

variable {ε α β : Type}

@[simp] theorem ok (a : α) : Succeeds (.ok a : Except ε α) := ⟨a, rfl⟩

theorem pure (a : α) : Succeeds (Pure.pure a : Except ε α) := ⟨a, rfl⟩

theorem of_isOk {x : Except ε α} (succeeds : x.isOk = true) : Succeeds x := by
  cases x with
  | error e => cases succeeds
  | ok a => exact ok a

theorem not_of_isOk {x : Except ε α} (fails : x.isOk = false) : ¬Succeeds x := by
  rintro ⟨a, rfl⟩
  cases fails

theorem bind {x : Except ε α} {f : α → Except ε β} (first : Succeeds x)
    (rest : ∀ a, x = .ok a → Succeeds (f a)) : Succeeds (x >>= f) := by
  obtain ⟨a, found⟩ := first
  rw [found]
  exact rest a found

theorem andThen {x : Except ε α} {f : α → β} (first : Succeeds x) :
    Succeeds (x >>= fun a => Pure.pure (f a)) :=
  first.bind fun a _ => pure (f a)

theorem of_bind {x : Except ε α} {f : α → Except ε β} (whole : Succeeds (x >>= f)) :
    ∃ a, x = .ok a ∧ Succeeds (f a) := by
  obtain ⟨b, came⟩ := whole
  obtain ⟨a, first, rest⟩ := bind_eq_ok_iff.1 came
  exact ⟨a, first, b, rest⟩

end Succeeds

section Except

variable {ε σ α : Type}

/-- When it depends on the items alone whether a step succeeds, it does so for a whole fold. -/
theorem foldlM_succeeds_iff {step : σ → α → Except ε σ} {good : α → Prop}
    (each : ∀ s a, Succeeds (step s a) ↔ good a) (items : List α) (s : σ) :
    Succeeds (items.foldlM step s) ↔ ∀ a ∈ items, good a := by
  induction items generalizing s with
  | nil => simpa using Succeeds.pure s
  | cons a items ih =>
    rw [List.foldlM_cons, List.forall_mem_cons]
    constructor
    · intro whole
      obtain ⟨next, first, rest⟩ := whole.of_bind
      exact ⟨(each s a).1 ⟨next, first⟩, (ih next).1 rest⟩
    · rintro ⟨first, rest⟩
      exact ((each s a).2 first).bind fun next _ => (ih next).2 rest

theorem foldlM_keeps {step : σ → α → Except ε σ} (kept : σ → Prop)
    (each : ∀ s a next, step s a = .ok next → kept s → kept next) (items : List α) (s last : σ)
    (whole : items.foldlM step s = .ok last) (holds : kept s) : kept last := by
  induction items generalizing s with
  | nil =>
    cases whole
    exact holds
  | cons a items ih =>
    rw [List.foldlM_cons, bind_eq_ok_iff] at whole
    obtain ⟨next, first, rest⟩ := whole
    exact ih next rest (each s a next first holds)

end Except

section Asking

variable {ε α β : Type} {ask : α → Except ε Bool}

theorem orM_eq_ok_true_iff {first second : Except ε Bool} :
    (first <||> second) = .ok true ↔ first = .ok true ∨ first = .ok false ∧ second = .ok true := by
  rcases first with e | (_ | _) <;> simp [orM, bind, Except.bind, pure, Except.pure, toBool]

theorem Succeeds.orM {first second : Except ε Bool} (one : Succeeds first) (other : Succeeds second) :
    Succeeds (first <||> second) := by
  obtain ⟨answer, rfl⟩ := one
  cases answer with
  | true => exact ⟨true, rfl⟩
  | false => exact other

theorem anyM_cons (a : α) (items : List α) : (a :: items).anyM ask = (ask a <||> items.anyM ask) := by
  rw [List.anyM_cons]
  rcases ask a with e | (_ | _) <;> rfl

theorem anyM_append (front back : List α) :
    (front ++ back).anyM ask = (front.anyM ask <||> back.anyM ask) := by
  induction front with
  | nil => rfl
  | cons a front ih =>
    rw [List.cons_append, anyM_cons, anyM_cons, ih]
    rcases ask a with e | (_ | _) <;> rfl

theorem anyM_eq_ok_false_iff {items : List α} : items.anyM ask = .ok false ↔ ∀ a ∈ items, ask a = .ok false := by
  induction items with
  | nil => simp [pure, Except.pure]
  | cons a items ih =>
    rw [anyM_cons, List.forall_mem_cons, ← ih]
    rcases ask a with e | (_ | _) <;> simp [orM, bind, Except.bind, pure, Except.pure, toBool]

/-- A row of questions comes to the first answer that is not no. -/
theorem anyM_eq_iff {items : List α} {answer : Except ε Bool} (settled : answer ≠ .ok false) :
    items.anyM ask = answer ↔
      ∃ before a after, items = before ++ a :: after ∧ ask a = answer ∧ ∀ b ∈ before, ask b = .ok false := by
  constructor
  · intro came
    induction items with
    | nil => exact absurd came.symm settled
    | cons a items ih =>
      by_cases no : ask a = .ok false
      · rw [anyM_cons, no] at came
        obtain ⟨before, b, after, rfl, answered, earlier⟩ := ih came
        exact ⟨a :: before, b, after, rfl, answered, List.forall_mem_cons.2 ⟨no, earlier⟩⟩
      · refine ⟨[], a, items, rfl, ?_, by simp⟩
        rw [anyM_cons] at came
        rw [← came]
        rcases given : ask a with e | (_ | _)
        · rfl
        · exact absurd given no
        · rfl
  · rintro ⟨before, a, after, rfl, answered, earlier⟩
    rw [anyM_append, anyM_eq_ok_false_iff.2 earlier, anyM_cons, answered]
    rcases answer with e | (_ | _)
    · rfl
    · exact absurd rfl settled
    · rfl

theorem anyM_succeeds {items : List α} (each : ∀ a ∈ items, Succeeds (ask a)) : Succeeds (items.anyM ask) := by
  induction items with
  | nil => exact ⟨false, rfl⟩
  | cons a items ih =>
    obtain ⟨first, rest⟩ := List.forall_mem_cons.1 each
    rw [anyM_cons]
    exact first.orM (ih rest)

theorem exists_of_anyM {items : List α} (found : items.anyM ask = .ok true) : ∃ a ∈ items, ask a = .ok true := by
  obtain ⟨before, a, after, rfl, answered, -⟩ := (anyM_eq_iff (by simp)).1 found
  exact ⟨a, by simp, answered⟩

end Asking

namespace Audit.Logged

variable {α β : Type}

@[simp] theorem value_pure (a : α) : (pure a : Logged α).value = a := rfl

@[simp] theorem value_bind (x : Logged α) (f : α → Logged β) : (x >>= f).value = (f x.value).value := rfl

instance : LawfulMonad Logged := by
  refine LawfulMonad.mk' Logged ?_ ?_ ?_
  · intro α x
    change (⟨x.value, x.log ++ []⟩ : Logged α) = x
    rw [List.append_nil]
  · intro α β a f
    rfl
  · intro α β γ x f g
    change (⟨_, x.log ++ _ ++ _⟩ : Logged γ) = ⟨_, x.log ++ (_ ++ _)⟩
    rw [List.append_assoc]
    rfl

theorem value_mapM (f : α → Logged β) (items : List α) : (items.mapM f).value = items.map fun a => (f a).value := by
  induction items with
  | nil => rfl
  | cons a items ih => rw [List.mapM_cons, value_bind, value_bind, ih, value_pure, List.map_cons]

end Audit.Logged

end TypingAudit
