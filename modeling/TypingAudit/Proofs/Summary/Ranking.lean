import Mathlib
import TypingAudit.Proofs.NameOrder
import TypingAudit.Summary.Ranking

/-!
Codes by rank. There is one list that has each code of some findings once, with the number of its findings, and in which
a more frequent code stands before a less frequent one and, of two that are as frequent, the one with the lesser text.
The most frequent codes are the beginning of this list, so it does not matter in which order the findings come.
-/

namespace TypingAudit.Summary

open Audit

/-- One text is less than another by code points: at the first place where they differ, or as a beginning of it. -/
def LesserText (a b : String) : Prop := a.toList.map Char.toNat < b.toList.map Char.toNat

instance : DecidableRel LesserText := fun a b =>
  inferInstanceAs (Decidable (a.toList.map Char.toNat < b.toList.map Char.toNat))

/-- One entry has its place before another: it counts more findings, or as many under a lesser text. -/
def Outranks (a b : String × Nat) : Prop := b.2 < a.2 ∨ a.2 = b.2 ∧ LesserText a.1 b.1

instance : DecidableRel Outranks := fun a b =>
  inferInstanceAs (Decidable (b.2 < a.2 ∨ a.2 = b.2 ∧ LesserText a.1 b.1))

/-- The list has the codes of the findings with their numbers, each code once, in the order of their ranks. -/
structure IsRanking (findings : List Finding) (ranking : List (String × Nat)) : Prop where
  counted : ∀ code n, (code, n) ∈ ranking ↔
    (∃ f ∈ findings, f.code = code) ∧ n = findings.countP (fun f => f.code == code)
  once : (ranking.map Prod.fst).Nodup
  ordered : ranking.Pairwise Outranks

section Order

theorem map_toNat_lt_iff (first second : List Char) :
    first.map Char.toNat < second.map Char.toNat ↔ first < second := by
  induction first generalizing second with
  | nil => cases second <;> simp
  | cons c first ih =>
    cases second with
    | nil => simp
    | cons d second =>
      have same : c.toNat = d.toNat ↔ c = d := Char.toNat_inj
      rw [List.map_cons, List.map_cons, List.cons_lt_cons_iff, List.cons_lt_cons_iff, ih, same]
      rfl

theorem lesserText_iff {a b : String} : LesserText a b ↔ a < b := by
  rw [LesserText, map_toNat_lt_iff, String.lt_iff_toList_lt]

theorem outranks_iff {a b : String × Nat} : Outranks a b ↔ b.2 < a.2 ∨ a.2 = b.2 ∧ a.1 < b.1 := by
  rw [Outranks, lesserText_iff]

theorem Outranks.asymm {a b : String × Nat} (first : Outranks a b) : ¬Outranks b a := by
  intro second
  rw [outranks_iff] at first second
  rcases first with more | ⟨same, lesser⟩
  · rcases second with less | ⟨equal, -⟩
    · omega
    · omega
  · rcases second with less | ⟨-, greater⟩
    · omega
    · exact lt_asymm lesser greater

instance : Std.Asymm Outranks := ⟨fun _ _ => Outranks.asymm⟩

theorem ranksBefore_iff {a b : String × Nat} : ranksBefore a b = true ↔ b.2 < a.2 ∨ a.2 = b.2 ∧ a.1 ≤ b.1 := by
  simp [ranksBefore]

theorem ranksBefore_trans (a b c : String × Nat) (first : ranksBefore a b = true) (second : ranksBefore b c = true) :
    ranksBefore a c = true := by
  rw [ranksBefore_iff] at first second ⊢
  rcases first with more | ⟨same, before⟩
  · left
    omega
  · rcases second with more | ⟨equal, after⟩
    · left
      omega
    · exact .inr ⟨same.trans equal, le_trans before after⟩

theorem ranksBefore_total (a b : String × Nat) : (ranksBefore a b || ranksBefore b a) = true := by
  rw [Bool.or_eq_true, ranksBefore_iff, ranksBefore_iff]
  rcases Nat.lt_trichotomy a.2 b.2 with less | same | more
  · exact .inr (.inl less)
  · rcases le_total a.1 b.1 with before | after
    · exact .inl (.inr ⟨same, before⟩)
    · exact .inr (.inr ⟨same.symm, after⟩)
  · exact .inl (.inl more)

theorem outranks_of_ranksBefore {a b : String × Nat} (before : ranksBefore a b = true) (different : a.1 ≠ b.1) :
    Outranks a b := by
  rw [outranks_iff]
  rcases ranksBefore_iff.1 before with more | ⟨same, notAfter⟩
  · exact .inl more
  · exact .inr ⟨same, lt_of_le_of_ne notAfter different⟩

end Order

section Counting

theorem nodup_eraseDups (codes : List String) : codes.eraseDups.Nodup := by
  cases codes with
  | nil => exact List.nodup_nil
  | cons code codes =>
    rw [List.eraseDups_cons, List.nodup_cons]
    constructor
    · intro again
      have kept := List.mem_eraseDups.1 again
      simp at kept
    · exact nodup_eraseDups _
termination_by codes.length
decreasing_by
  have bound := List.length_filter_le (fun other => !other == code) codes
  rw [List.length_cons]
  omega

variable (findings : List Finding)

theorem count_codes (code : String) :
    (findings.map Finding.code).count code = findings.countP (fun f => f.code == code) := by
  rw [List.count, List.countP_map]
  rfl

theorem map_fst_codeCounts : (codeCounts findings).map Prod.fst = (findings.map Finding.code).eraseDups := by
  rw [codeCounts, List.map_map]
  exact List.map_id _

theorem mem_codeCounts_iff (code : String) (n : Nat) :
    (code, n) ∈ codeCounts findings ↔
      (∃ f ∈ findings, f.code = code) ∧ n = findings.countP (fun f => f.code == code) := by
  simp only [codeCounts, List.mem_map, List.mem_eraseDups, Prod.mk.injEq, count_codes]
  constructor
  · rintro ⟨_, ⟨f, found, rfl⟩, rfl, rfl⟩
    exact ⟨⟨f, found, rfl⟩, rfl⟩
  · rintro ⟨⟨f, found, rfl⟩, rfl⟩
    exact ⟨f.code, ⟨f, found, rfl⟩, rfl, rfl⟩

theorem sum_codeCounts : ((codeCounts findings).map Prod.snd).sum = findings.length := by
  have sameCodes : (findings.map Finding.code).eraseDups.Perm (findings.map Finding.code).dedup := by
    apply (List.perm_ext_iff_of_nodup (nodup_eraseDups _) (List.nodup_dedup _)).2
    intro code
    rw [List.mem_eraseDups, List.mem_dedup]
  calc ((codeCounts findings).map Prod.snd).sum
      = ((findings.map Finding.code).eraseDups.map fun code => (findings.map Finding.code).count code).sum := by
        rw [codeCounts, List.map_map]
        rfl
    _ = ((findings.map Finding.code).dedup.map fun code => (findings.map Finding.code).count code).sum :=
        (sameCodes.map _).sum_eq
    _ = findings.length := by rw [List.sum_map_count_dedup_eq_length, List.length_map]

end Counting

section Ranking

def ranked (findings : List Finding) : List (String × Nat) := (codeCounts findings).mergeSort ranksBefore

variable {findings : List Finding}

theorem ranked_perm (findings : List Finding) : (ranked findings).Perm (codeCounts findings) :=
  List.mergeSort_perm _ _

theorem isRanking_ranked (findings : List Finding) : IsRanking findings (ranked findings) := by
  have once : ((ranked findings).map Prod.fst).Nodup := by
    rw [((ranked_perm findings).map Prod.fst).nodup_iff, map_fst_codeCounts]
    exact nodup_eraseDups _
  refine ⟨?_, once, ?_⟩
  · intro code n
    rw [(ranked_perm findings).mem_iff, mem_codeCounts_iff]
  · have sorted : (ranked findings).Pairwise fun a b => ranksBefore a b = true :=
      List.pairwise_mergeSort ranksBefore_trans ranksBefore_total _
    have different : (ranked findings).Pairwise fun a b => a.1 ≠ b.1 := List.pairwise_map.1 once
    exact sorted.imp₂ (fun a b before apart => outranks_of_ranksBefore before apart) different

theorem IsRanking.unique {first second : List (String × Nat)} (one : IsRanking findings first)
    (other : IsRanking findings second) : first = second := by
  apply one.ordered.eq_of_mem_iff other.ordered
  rintro ⟨code, n⟩
  rw [one.counted, other.counted]

theorem IsRanking.of_perm {others : List Finding} {ranking : List (String × Nat)} (given : IsRanking findings ranking)
    (same : others.Perm findings) : IsRanking others ranking where
  counted code n := by
    have occurs : (∃ f ∈ others, f.code = code) ↔ ∃ f ∈ findings, f.code = code := by simp only [same.mem_iff]
    rw [given.counted, occurs, same.countP_eq]
  once := given.once
  ordered := given.ordered

theorem ranked_eq_of_perm {others : List Finding} (same : others.Perm findings) : ranked others = ranked findings :=
  (isRanking_ranked others).unique ((isRanking_ranked findings).of_perm same)

theorem upTo_eq_take {α : Type} (limit : Int) (items : List α) :
    upTo limit items = items.take (if 0 ≤ limit then limit else items.length + limit).toNat := by
  unfold upTo
  by_cases positive : 0 ≤ limit
  · rw [if_pos positive, if_pos positive]
  · have fromEnd : items.length - (-limit).toNat = (items.length + limit).toNat := by omega
    rw [if_neg positive, if_neg positive, fromEnd]

theorem mostFrequent_eq (limit : Int) (findings : List Finding) :
    mostFrequent limit findings =
      (ranked findings).take (if 0 ≤ limit then limit else (ranked findings).length + limit).toNat :=
  upTo_eq_take limit _

/-- In a list that stands in an order, what is left out at the end comes after what is kept. -/
theorem outranks_of_omitted {ranking : List (String × Nat)} (ordered : ranking.Pairwise Outranks) (count : Nat)
    {listed entry : String × Nat} (kept : listed ∈ ranking.take count) (member : entry ∈ ranking)
    (omitted : entry ∉ ranking.take count) : Outranks listed entry := by
  have dropped : entry ∈ ranking.drop count := by
    rw [← List.take_append_drop count ranking] at member
    exact (List.mem_append.1 member).resolve_left omitted
  rw [← List.take_append_drop count ranking] at ordered
  exact (List.pairwise_append.1 ordered).2.2 listed kept entry dropped

end Ranking

/-- The most frequent codes are the top of the one ranking there is, whatever the order of the findings, and the numbers
of the whole ranking make up all findings. -/
theorem mostFrequent_is_top_of_ranking (findings : List Finding) (limit : Int) :
    ∃ ranking,
      IsRanking findings ranking ∧ (∀ other, IsRanking findings other → other = ranking) ∧
      mostFrequent limit findings = ranking.take (if 0 ≤ limit then limit else ranking.length + limit).toNat ∧
      (∀ others, others.Perm findings → mostFrequent limit others = mostFrequent limit findings) ∧
      (∀ listed ∈ mostFrequent limit findings, ∀ entry ∈ ranking, entry ∉ mostFrequent limit findings →
        Outranks listed entry ∧ ¬Outranks entry listed) ∧
      (ranking.map Prod.snd).sum = findings.length := by
  have isRanking := isRanking_ranked findings
  refine ⟨ranked findings, isRanking, fun other also => also.unique isRanking, mostFrequent_eq limit findings, ?_, ?_,
    ?_⟩
  · intro others same
    rw [mostFrequent_eq, mostFrequent_eq, ranked_eq_of_perm same]
  · rw [mostFrequent_eq]
    intro listed kept entry member omitted
    have before := outranks_of_omitted isRanking.ordered _ kept member omitted
    exact ⟨before, before.asymm⟩
  · rw [((ranked_perm findings).map Prod.snd).sum_eq, sum_codeCounts]

def tiedFindings : List Finding :=
  ["B", "C", "A", "B", "A"].map fun code => ⟨"a.py", 1, 1, Severity.info, code, "", none⟩

theorem isRanking_tiedFindings : IsRanking tiedFindings [("A", 2), ("B", 2), ("C", 1)] where
  counted code n := by
    constructor
    · intro member
      simp only [List.mem_cons, Prod.mk.injEq, List.not_mem_nil, or_false] at member
      rcases member with ⟨rfl, rfl⟩ | ⟨rfl, rfl⟩ | ⟨rfl, rfl⟩ <;> decide
    · rintro ⟨⟨f, found, rfl⟩, rfl⟩
      revert f
      decide
  once := by decide
  ordered := by decide

theorem tiedFindings_ranked :
    IsRanking tiedFindings [("A", 2), ("B", 2), ("C", 1)] ∧ tiedFindings.reverse.Perm tiedFindings ∧
      mostFrequent (-1) tiedFindings.reverse = [("A", 2), ("B", 2)] ∧
      ∀ listed ∈ mostFrequent (-1) tiedFindings, ¬Outranks ("C", 1) listed := by
  have reversed := tiedFindings.reverse_perm
  obtain ⟨ranking, -, unique, taken, unmoved, before, -⟩ := mostFrequent_is_top_of_ranking tiedFindings (-1)
  have whole := unique _ isRanking_tiedFindings
  subst whole
  refine ⟨isRanking_tiedFindings, reversed, (unmoved _ reversed).trans taken, ?_⟩
  intro listed kept
  refine (before listed kept ("C", 1) (by decide) ?_).2
  rw [taken]
  decide

end TypingAudit.Summary
