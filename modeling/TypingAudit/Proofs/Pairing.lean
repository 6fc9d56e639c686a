import Mathlib.Data.List.Forall2

/-!
Lists that correspond item by item still do so after items that belong together have been left out of both.
-/

namespace TypingAudit

variable {α β γ : Type} {paired : α → β → Prop} {related : α → γ → Prop}

theorem forall₂_picked {chosen : α → Bool} {pick : β → Option γ} {as : List α} {bs : List β}
    (sound : ∀ a b c, paired a b → pick b = some c → chosen a = true ∧ related a c)
    (complete : ∀ a b, paired a b → pick b = none → chosen a = false) (each : List.Forall₂ paired as bs) :
    List.Forall₂ related (as.filter chosen) (bs.filterMap pick) := by
  induction each with
  | nil => exact .nil
  | @cons a b as bs pair rest ih =>
    cases picked : pick b with
    | none =>
      have passed := complete a b pair picked
      rw [List.filter_cons_of_neg (by simp [passed]), List.filterMap_cons_none picked]
      exact ih
    | some c =>
      obtain ⟨taken, result⟩ := sound a b c pair picked
      rw [List.filter_cons_of_pos taken, List.filterMap_cons_some picked]
      exact .cons result ih

/-- A selection and the results it leads to, item by item. -/
theorem forall₂_filterMap {chosen : α → Bool} {result? : α → Option γ}
    (sound : ∀ a c, result? a = some c → chosen a = true ∧ related a c)
    (complete : ∀ a, chosen a = true → ∃ c, result? a = some c) (items : List α) :
    List.Forall₂ related (items.filter chosen) (items.filterMap result?) := by
  refine forall₂_picked ?_ ?_ (List.forall₂_refl items : List.Forall₂ Eq items items)
  · rintro a _ c rfl result
    exact sound a c result
  · rintro a _ rfl without
    by_contra taken
    obtain ⟨c, result⟩ := complete a (by simpa using taken)
    rw [without] at result
    cases result

end TypingAudit
