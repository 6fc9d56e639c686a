import Mathlib.Data.List.Basic
import TypingAudit.Text.Normal

/-!
Quotes and the normal form of names. No character but the quote itself is taken apart into one, and none is composed
from others. For characters beyond ASCII this is a fact about the tables, which are gone through line by line.
-/

namespace TypingAudit.Text

/-- The code point of the single quote. -/
def quotePoint : Nat := 39

namespace Table

variable {p : Nat → Bool} {lines : List String} {entry : Nat × Nat × Nat}

def LinePasses (p : Nat → Bool) (line : String) : Prop := (numbersFrom none line.toList).all p = true

/-- A line is tested by its characters, since reading them off the literal takes much longer. -/
theorem linePasses_ofList {cs : List Char} (passed : (numbersFrom none cs).all p = true) :
    LinePasses p (String.ofList cs) := by
  rwa [LinePasses, String.toList_ofList]

theorem all_numbers (each : ∀ line ∈ lines, LinePasses p line) : (numbers lines).all p = true := by
  rw [numbers, List.all_flatMap]
  exact List.all_eq_true.2 each

theorem mem_of_mem_triples {ns : List Nat} (listed : entry ∈ triples ns) : entry.2.2 ∈ ns := by
  induction ns using triples.induct with
  | case1 a b c rest ih =>
    rw [triples] at listed
    rcases List.mem_cons.1 listed with rfl | later
    · simp
    · simp [ih later]
  | case2 ns short =>
    rw [triples.eq_def] at listed
    split at listed
    · exact absurd rfl (short _ _ _ _)
    · cases listed

theorem of_mem_triples (listed : entry ∈ triples (numbers lines)) (each : ∀ line ∈ lines, LinePasses p line) :
    p entry.2.2 = true :=
  List.all_eq_true.1 (all_numbers each) _ (mem_of_mem_triples listed)

end Table

section Tables

open Table

variable {entry : Nat × Nat × Nat}

theorem lt_of_mem_shiftTable (listed : entry ∈ shiftTable) : quotePoint < entry.2.2 := by
  unfold shiftTable at listed
  refine of_decide_eq_true (of_mem_triples (p := fun n => decide (quotePoint < n)) listed ?_)
  repeat' first
    | exact List.forall_mem_nil _
    | refine List.forall_mem_cons.2 ⟨?_, ?_⟩
    | apply linePasses_ofList; decide +kernel

theorem ne_of_mem_compositionTable (listed : entry ∈ compositionTable) : entry.2.2 ≠ quotePoint := by
  unfold compositionTable at listed
  refine of_decide_eq_true (of_mem_triples (p := fun n => decide (n ≠ quotePoint)) listed ?_)
  repeat' first
    | exact List.forall_mem_nil _
    | refine List.forall_mem_cons.2 ⟨?_, ?_⟩
    | apply linePasses_ofList; decide +kernel

theorem quotePoint_notMem_expansionFigures : quotePoint ∉ expansionFigures := by
  have all : expansionFigures.all (fun n => decide (n ≠ quotePoint)) = true := by
    apply all_numbers
    repeat' first
      | exact List.forall_mem_nil _
      | refine List.forall_mem_cons.2 ⟨?_, ?_⟩
      | apply linePasses_ofList; decide +kernel
  exact fun listed => of_decide_eq_true (List.all_eq_true.1 all quotePoint listed) rfl

end Tables

section Decomposition

variable {point : Nat}

theorem subset_of_expansionIn {figures expansion : List Nat} {fuel : Nat}
    (found : expansionIn point fuel figures = some expansion) : expansion ⊆ figures := by
  induction fuel generalizing figures with
  | zero =>
    unfold expansionIn at found
    cases found
  | succ fuel ih =>
    unfold expansionIn at found
    split at found
    next c length rest sameFuel =>
      have later : rest ⊆ c :: length :: rest := fun n among => List.mem_cons_of_mem _ (List.mem_cons_of_mem _ among)
      split at found
      · cases found
        exact List.Subset.trans (List.take_subset _ _) later
      · cases sameFuel
        exact List.Subset.trans (ih found) (List.Subset.trans (List.drop_subset _ _) later)
    next => cases found

theorem quotePoint_notMem_letters {letters : List Nat} (found : Hangul.letters? point = some letters) :
    quotePoint ∉ letters := by
  have apart : ∀ {low : Nat} (n : Nat), quotePoint < low → quotePoint ≠ low + n := by omega
  have lead : quotePoint < Hangul.firstLead := by decide
  have vowel : quotePoint < Hangul.firstVowel := by decide
  have trail : quotePoint < Hangul.noTrail := by decide
  unfold Hangul.letters? at found
  split at found <;> cases found
  simp only [List.mem_append, List.mem_cons, List.not_mem_nil, or_false, not_or]
  refine ⟨⟨apart _ lead, apart _ vowel⟩, ?_⟩
  split
  · exact List.not_mem_nil
  · exact mt List.mem_singleton.1 (apart _ trail)

theorem quotePoint_notMem_decompose (other : point ≠ quotePoint) : quotePoint ∉ decompose point := by
  unfold decompose
  split
  next letters found => exact quotePoint_notMem_letters found
  next =>
    split
    next first target found =>
      obtain ⟨entry, among, same⟩ := Option.map_eq_some_iff.1 found
      cases same
      have above := lt_of_mem_shiftTable (List.mem_of_find?_eq_some among)
      rw [List.mem_singleton]
      omega
    next =>
      cases found : expansion? point with
      | none =>
        rw [Option.getD_none, List.mem_singleton]
        exact other.symm
      | some expansion => exact fun among => quotePoint_notMem_expansionFigures (subset_of_expansionIn found among)

end Decomposition

section Composition

variable {first second point : Nat}

theorem ne_of_compose? (composed : compose? first second = some point) : point ≠ quotePoint := by
  have low : quotePoint < Hangul.firstSyllable := by decide
  unfold compose? at composed
  split at composed
  next hangul =>
    cases composed
    unfold Hangul.compose? at hangul
    split at hangul
    · rw [← Option.some.inj hangul]
      omega
    · split at hangul
      · rename_i syllable
        have above := syllable.1
        rw [← Option.some.inj hangul]
        omega
      · cases hangul
  next =>
    obtain ⟨entry, among, rfl⟩ := Option.map_eq_some_iff.1 composed
    exact ne_of_mem_compositionTable (List.mem_of_find?_eq_some among)

theorem mem_of_mem_orderMarks {points marks : List Nat} (among : point ∈ orderMarks points marks) :
    point ∈ points ∨ point ∈ marks := by
  induction points generalizing marks with
  | nil => exact .inr (List.mem_mergeSort.1 among)
  | cons next points ih =>
    unfold orderMarks at among
    split at among
    · rcases List.mem_append.1 among with sorted | later
      · exact .inr (List.mem_mergeSort.1 sorted)
      · rcases List.mem_cons.1 later with rfl | further
        · exact .inl List.mem_cons_self
        · exact (ih further).imp (List.mem_cons_of_mem _) fun none => by cases none
    · rcases ih among with further | held
      · exact .inl (List.mem_cons_of_mem _ further)
      · rcases List.mem_append.1 held with earlier | here
        · exact .inr earlier
        · exact .inl (List.mem_singleton.1 here ▸ List.mem_cons_self)

/-- What is composed is new, but never a quote, so a quote must have been there before. -/
theorem quotePoint_mem_of_composeFrom {points : List Nat} {cluster : Option Cluster}
    (among : quotePoint ∈ composeFrom cluster points) :
    quotePoint ∈ points ∨ ∃ c ∈ cluster, quotePoint ∈ c.points := by
  induction points generalizing cluster with
  | nil =>
    rw [composeFrom] at among
    cases cluster with
    | none => cases among
    | some c => exact .inr ⟨c, rfl, among⟩
  | cons point points ih =>
    have later : ∀ {other : Option Cluster}, quotePoint ∈ composeFrom other points →
        (∀ c ∈ other, quotePoint ∈ c.points → quotePoint = point ∨ ∃ c ∈ cluster, quotePoint ∈ c.points) →
        quotePoint ∈ point :: points ∨ ∃ c ∈ cluster, quotePoint ∈ c.points := by
      intro other among held
      rcases ih among with further | ⟨c, same, inside⟩
      · exact .inl (List.mem_cons_of_mem _ further)
      · exact (held c same inside).imp_left fun equal => List.mem_cons.2 (.inl equal)
    cases cluster with
    | none =>
      rw [composeFrom] at among
      split at among
      · refine later among fun c same inside => .inl ?_
        cases same
        exact List.mem_singleton.1 inside
      · rcases List.mem_cons.1 among with same | further
        · exact .inl (List.mem_cons.2 (.inl same))
        · exact later further fun c same _ => by cases same
    | some open' =>
      rw [composeFrom] at among
      split at among
      · rename_i composed found
        refine later among fun c same inside => ?_
        cases same
        rcases List.mem_cons.1 inside with new | mark
        · split at found
          · exact absurd new.symm (ne_of_compose? found)
          · cases found
        · exact .inr ⟨open', rfl, List.mem_cons_of_mem _ mark⟩
      · split at among
        · rcases List.mem_append.1 among with closed | further
          · exact .inr ⟨open', rfl, closed⟩
          · refine later further fun c same inside => .inl ?_
            cases same
            exact List.mem_singleton.1 inside
        · refine later among fun c same inside => ?_
          cases same
          rcases List.mem_cons.1 inside with base | mark
          · exact .inr ⟨open', rfl, base ▸ List.mem_cons_self⟩
          · rcases List.mem_append.1 mark with earlier | here
            · exact .inr ⟨open', rfl, List.mem_cons_of_mem _ earlier⟩
            · exact .inl (List.mem_singleton.1 here)

theorem quotePoint_notMem_normalizePoints {points : List Nat} (clean : quotePoint ∉ points) :
    quotePoint ∉ normalizePoints points := by
  intro among
  rcases quotePoint_mem_of_composeFrom among with ordered | ⟨c, none, -⟩
  · rcases mem_of_mem_orderMarks ordered with taken | none
    · obtain ⟨point, listed, apart⟩ := List.mem_flatMap.1 taken
      exact quotePoint_notMem_decompose (fun same => clean (same ▸ listed)) apart
    · cases none
  · cases none

end Composition

theorem eq_quotePoint_of_ofNat {point : Nat} (same : Char.ofNat point = '\'') : point = quotePoint := by
  by_cases valid : point.isValidChar
  · have number : (Char.ofNat point).toNat = point := by
      rw [Char.ofNat, dif_pos valid]
      rfl
    rw [← number, same]
    rfl
  · rw [Char.ofNat, dif_neg valid] at same
    cases same

theorem quote_notMem_normalizeName {name : List Char} (clean : '\'' ∉ name) : '\'' ∉ normalizeName name := by
  unfold normalizeName
  split
  · exact clean
  · have points : quotePoint ∉ name.map Char.toNat := by
      intro among
      obtain ⟨c, listed, same⟩ := List.mem_map.1 among
      have quote : c = '\'' := Char.toNat_inj.1 same
      exact clean (quote ▸ listed)
    intro among
    obtain ⟨point, listed, same⟩ := List.mem_map.1 among
    exact quotePoint_notMem_normalizePoints points (eq_quotePoint_of_ofNat same ▸ listed)

end TypingAudit.Text
