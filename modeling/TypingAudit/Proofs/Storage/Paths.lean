import TypingAudit.Storage.Path

/-!
Where paths lead by their text. Without double dots a path leads to its own segments, and a location that is
reached from one without double dots has none either. A path whose segments are names that files can have is read
back from its text.
-/

namespace TypingAudit.Storage

open Text

def ProperName (name : String) : Prop := name ≠ "" ∧ name ≠ "." ∧ name ≠ ".." ∧ '/' ∉ name.toList

instance (name : String) : Decidable (ProperName name) := inferInstanceAs (Decidable (_ ∧ _))

theorem plain_of_proper {segments : List String} (proper : ∀ s ∈ segments, ProperName s) : ".." ∉ segments :=
  fun member => (proper ".." member).2.2.1 rfl

namespace Path

theorem follow_append (start : Location) (before after : List String) :
    follow start (before ++ after) = follow (follow start before) after :=
  List.foldl_append

theorem follow_of_plain (start : Location) {segments : List String} (plain : ".." ∉ segments) :
    follow start segments = start ++ segments := by
  induction segments generalizing start with
  | nil => exact (List.append_nil start).symm
  | cons segment segments ih =>
    rw [List.mem_cons, not_or] at plain
    have onward : follow start (segment :: segments) = follow (start ++ [segment]) segments := by
      change follow (if segment == ".." then start.dropLast else start ++ [segment]) segments = _
      rw [if_neg (by simpa using Ne.symm plain.1)]
    rw [onward, ih _ plain.2, List.append_assoc]
    rfl

theorem plain_follow {start : Location} (plain : ".." ∉ start) (segments : List String) :
    ".." ∉ follow start segments := by
  induction segments generalizing start with
  | nil => exact plain
  | cons segment segments ih =>
    have onward : ".." ∉ if segment == ".." then start.dropLast else start ++ [segment] := by
      split
      · exact fun member => plain ((List.dropLast_sublist start).mem member)
      · rename_i down
        rw [List.mem_append, List.mem_singleton, not_or]
        exact ⟨plain, fun up => down (by simp [← up])⟩
    exact ih onward

theorem plain_resolve {directory : Location} (plain : ".." ∉ directory) (p : Path) :
    ".." ∉ p.resolve directory := by
  refine plain_follow ?_ p.segments
  split
  · exact plain
  · exact List.not_mem_nil

theorem resolve_ofLocation (directory : Location) {location : Location} (plain : ".." ∉ location) :
    (ofLocation location).resolve directory = location :=
  follow_of_plain [] plain

theorem resolve_child (directory : Location) (p : Path) {name : String} (plain : name ≠ "..") :
    (p.child name).resolve directory = p.resolve directory ++ [name] := by
  change follow _ (p.segments ++ [name]) = _
  rw [follow_append, follow_of_plain _ (by simpa using Ne.symm plain)]
  rfl

section Reading

variable {separates : Char → Bool} {piece : List Char} {separator : Char}

theorem splitWhere_append (whole : ∀ c ∈ piece, separates c = false) (cut : separates separator = true)
    (rest : List Char) :
    splitWhere separates (piece ++ separator :: rest) = piece :: splitWhere separates rest := by
  induction piece with
  | nil => rw [List.nil_append, splitWhere, if_pos cut]
  | cons c piece ih =>
    obtain ⟨kept, whole⟩ := List.forall_mem_cons.1 whole
    rw [List.cons_append, splitWhere, if_neg (by simp [kept]), ih whole]

/-- Pieces that are joined with a separator which none of them has are found again. -/
theorem splitWhere_joined (whole : ∀ c ∈ piece, separates c = false) (cut : separates separator = true)
    {pieces : List (List Char)} (others : ∀ p ∈ pieces, ∀ c ∈ p, separates c = false) :
    splitWhere separates (piece ++ pieces.flatMap (separator :: ·)) = piece :: pieces := by
  induction pieces generalizing piece with
  | nil =>
    rw [List.flatMap_nil, List.append_nil]
    induction piece with
    | nil => rfl
    | cons c piece ih =>
      obtain ⟨kept, whole⟩ := List.forall_mem_cons.1 whole
      rw [splitWhere, if_neg (by simp [kept]), ih whole]
  | cons next pieces ih =>
    obtain ⟨first, others⟩ := List.forall_mem_cons.1 others
    rw [List.flatMap_cons, List.cons_append, splitWhere_append whole cut, ih first others]

theorem toList_intercalate_cons (segment : String) (segments : List String) :
    ("/".intercalate (segment :: segments)).toList =
      segment.toList ++ (segments.map String.toList).flatMap ('/' :: ·) := by
  induction segments generalizing segment with
  | nil => simp
  | cons next segments ih =>
    rw [String.intercalate_cons_cons, String.toList_append, String.toList_append, ih]
    simp

variable {segments : List String}

theorem segmentsOf_intercalate (proper : ∀ s ∈ segments, ProperName s) :
    segmentsOf ("/".intercalate segments).toList = segments := by
  cases segments with
  | nil => rfl
  | cons segment segments =>
    have whole {s : String} (good : ProperName s) : ∀ c ∈ s.toList, (c == '/') = false := by
      intro c member
      rw [beq_eq_false_iff_ne]
      rintro rfl
      exact good.2.2.2 member
    obtain ⟨first, others⟩ := List.forall_mem_cons.1 proper
    have pieces : splitWhere (· == '/') ("/".intercalate (segment :: segments)).toList =
        (segment :: segments).map String.toList := by
      rw [toList_intercalate_cons]
      refine splitWhere_joined (whole first) rfl ?_
      intro p listed
      obtain ⟨s, member, rfl⟩ := List.mem_map.1 listed
      exact whole (others s member)
    rw [segmentsOf, pieces, List.map_map]
    have same : (String.ofList ∘ String.toList) = id := by
      funext s
      exact String.ofList_toList
    rw [same, List.map_id, List.filter_eq_self]
    intro s member
    have good := proper s member
    simp [good.1, good.2.1]

theorem takeWhile_intercalate (proper : ∀ s ∈ segments, ProperName s) :
    ("/".intercalate segments).toList.takeWhile (· == '/') = [] := by
  cases segments with
  | nil => rfl
  | cons segment segments =>
    have good := proper segment List.mem_cons_self
    rw [toList_intercalate_cons]
    cases characters : segment.toList with
    | nil => exact absurd (String.toList_eq_nil_iff.1 characters) good.1
    | cons c rest =>
      have other : c ≠ '/' := by
        rintro rfl
        exact good.2.2.2 (by simp [characters])
      simp [other]

theorem segmentsOf_slash (text : List Char) : segmentsOf ('/' :: text) = segmentsOf text := rfl

/-- A path is read back from its text, as long as its segments are proper names. -/
theorem ofString_text {p : Path} (proper : ∀ s ∈ p.segments, ProperName s) : ofString p.text = p := by
  obtain ⟨anchor, segments⟩ := p
  have slashes := takeWhile_intercalate proper
  have read := segmentsOf_intercalate proper
  dsimp only at slashes read
  cases anchor with
  | here =>
    by_cases none : segments = []
    · subst none
      rfl
    · rw [text, if_neg (by simp [none])]
      simp [-String.toList_intercalate, ofString, Anchor.text, slashes, read, Anchor.ofSlashes]
  | root =>
    simp [-String.toList_intercalate, text, ofString, Anchor.text, slashes, read, segmentsOf_slash, Anchor.ofSlashes]
  | doubleRoot =>
    simp [-String.toList_intercalate, text, ofString, Anchor.text, slashes, read, segmentsOf_slash, Anchor.ofSlashes]

end Reading

end Path

end TypingAudit.Storage
