import Mathlib.Data.List.Basic
import Mathlib.Data.List.TakeWhile
import TypingAudit.Typing.Imports

/-!
What is found in a map after bindings have been added to it: for each name the last one of them.
-/

namespace TypingAudit.Typing

namespace Bindings

variable {α : Type}

theorem get?_insert (b : Bindings α) (name : String) (value : α) (asked : String) :
    (b.insert name value).get? asked = if name = asked then some value else b.get? asked := by
  by_cases same : name = asked
  · simp [insert, get?, same]
  · simp only [insert, get?, List.find?_cons, beq_eq_false_iff_ne.2 same, if_neg same, List.find?_filter]
    congr 2
    funext entry
    by_cases found : entry.1 = asked
    · simp [found, Ne.symm same]
    · simp [found]

theorem get?_insertAll_eq_none {b : Bindings α} {added : List (String × α)} {name : String} :
    (b.insertAll added).get? name = none ↔ b.get? name = none ∧ ∀ entry ∈ added, entry.1 ≠ name := by
  induction added generalizing b with
  | nil => simp [insertAll]
  | cons entry added ih =>
    rw [insertAll, List.foldl_cons, ← insertAll, ih, get?_insert, List.forall_mem_cons]
    by_cases same : entry.1 = name
    · simp [same]
    · simp [same]

theorem mem_entries_insertAll {b : Bindings α} {added : List (String × α)} {entry : String × α}
    (listed : entry ∈ (b.insertAll added).entries) : entry ∈ b.entries ∨ entry ∈ added := by
  induction added generalizing b with
  | nil => exact .inl listed
  | cons first added ih =>
    rw [insertAll, List.foldl_cons, ← insertAll] at listed
    rcases ih listed with before | later
    · rcases List.mem_cons.1 before with rfl | kept
      · exact .inr List.mem_cons_self
      · exact .inl (List.mem_filter.1 kept).1
    · exact .inr (List.mem_cons_of_mem first later)

/-- The last binding of a name is the one that counts, and what was bound before counts if there is none. -/
theorem get?_insertAll (b : Bindings α) (added : List (String × α)) (name : String) :
    (b.insertAll added).get? name =
      ((added.filter fun entry => entry.1 == name).getLast?.map Prod.snd).or (b.get? name) := by
  induction added generalizing b with
  | nil => rfl
  | cons entry added ih =>
    rw [insertAll, List.foldl_cons, ← insertAll, ih, get?_insert]
    by_cases same : entry.1 = name
    · have kept : (entry.1 == name) = true := beq_iff_eq.2 same
      rw [if_pos same, List.filter_cons, if_pos kept, List.getLast?_cons]
      cases (added.filter fun entry => entry.1 == name).getLast? <;> rfl
    · have dropped : ¬(entry.1 == name) = true := by simpa using same
      rw [if_neg same, List.filter_cons, if_neg dropped]

end Bindings

theorem rootName_of_undotted {text : String} (undotted : '.' ∉ text.toList) : rootName text = text := by
  have all : text.toList.takeWhile (· ≠ '.') = text.toList :=
    List.takeWhile_eq_self_iff.2 fun c member => by
      simpa using ne_of_mem_of_not_mem member undotted
  rw [rootName, all, String.ofList_toList]

end TypingAudit.Typing
