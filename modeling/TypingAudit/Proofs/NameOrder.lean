import Mathlib

/-!
Items sorted by their names. Where no two items have the same name, the order of the names is strict, and it
alone decides in which order the items stand.
-/

namespace TypingAudit

variable {α : Type}

theorem pairwise_le_byName (items : List (String × α)) :
    (items.mergeSort fun a b => decide (a.1 ≤ b.1)).Pairwise fun a b => a.1 ≤ b.1 := by
  have sorted : (items.mergeSort fun a b => decide (a.1 ≤ b.1)).Pairwise fun a b => decide (a.1 ≤ b.1) = true := by
    apply List.pairwise_mergeSort
    · intro a b c first second
      rw [decide_eq_true_eq] at first second ⊢
      exact le_trans first second
    · intro a b
      rw [Bool.or_eq_true, decide_eq_true_eq, decide_eq_true_eq]
      exact le_total a.1 b.1
  exact sorted.imp of_decide_eq_true

theorem pairwise_lt_byName {items : List (String × α)} (distinct : (items.map Prod.fst).Nodup) :
    (items.mergeSort fun a b => decide (a.1 ≤ b.1)).Pairwise fun a b => a.1 < b.1 := by
  have names : (items.mergeSort fun a b => decide (a.1 ≤ b.1)).Pairwise fun a b => a.1 ≠ b.1 :=
    List.pairwise_map.1 (((List.mergeSort_perm items _).map Prod.fst).nodup_iff.2 distinct)
  exact (pairwise_le_byName items).imp₂ (fun a b before different => lt_of_le_of_ne before different) names

instance asymm_byName : Std.Asymm fun a b : String × α => a.1 < b.1 := ⟨fun _ _ => lt_asymm⟩

end TypingAudit
