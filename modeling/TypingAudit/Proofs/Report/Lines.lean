import Mathlib
import TypingAudit.Proofs.Report.Spelling
import TypingAudit.Report.Markdown

/-!
The report for readers, read line by line. A text that is made of lines falls into these lines again as long as none of
them has a line end of its own; a line that begins with a number sign is a heading, the lines from it to the next one
are its section, and the lines that begin with a bar are the table in it, of which the first two are no rows.
-/

namespace TypingAudit.Report

open Audit Summary

def OneLine (text : String) : Prop := '\n' ∉ text.toList

instance : DecidablePred OneLine := fun text => inferInstanceAs (Decidable ('\n' ∉ text.toList))

def linesOf (text : String) : List String := (text.toList.splitOn '\n').map String.ofList

def beginsWith (c : Char) (line : String) : Bool := line.toList.head? == some c

def isHeading (line : String) : Bool := beginsWith '#' line

/-- The lines below a heading, up to the next heading. -/
def sectionBelow (heading : String) (lines : List String) : List String :=
  (lines.dropWhile (· != heading)).tail.takeWhile fun line => !isHeading line

/-- The rows of a table, without its header and the ruler under it. -/
def rowsIn (lines : List String) : List String := (lines.filter (beginsWith '|')).drop 2

def itemValue? (label line : String) : Option String :=
  (("- **" ++ label ++ ":** ").toList.isPrefixOf? line.toList).map String.ofList

def itemValues (label : String) (lines : List String) : List String := lines.filterMap (itemValue? label)

def secondNumber? (line : String) : Option Nat :=
  (line.toList.splitOn '|')[2]?.bind fun cell => (String.ofList (cell.filter (· != ' '))).toNat?

theorem bne_of_not_mem {α : Type} [DecidableEq α] {a : α} {items : List α} (absent : a ∉ items) :
    ∀ b ∈ items, (b != a) = true := by
  intro b member
  rw [bne_iff_ne]
  rintro rfl
  exact absent member

section OneLine

/-- Whether a character occurs in a text is decided on its characters, without a walk over their encoding. -/
theorem not_mem_ofList {c : Char} {characters : List Char} (absent : c ∉ characters) :
    c ∉ (String.ofList characters).toList := by
  rw [String.toList_ofList]
  exact absent

theorem OneLine.append {first second : String} (one : OneLine first) (other : OneLine second) :
    OneLine (first ++ second) := by
  rw [OneLine, String.toList_append, List.mem_append, not_or]
  exact ⟨one, other⟩

theorem oneLine_tableCell (text : String) : OneLine (tableCell text) := by
  rw [OneLine, tableCell, String.toList_ofList, List.mem_flatMap]
  intro broken
  obtain ⟨c, -, member⟩ := broken
  unfold cellChar at member
  split at member
  · simp at member
  · split at member
    · simp at member
    · rename_i other
      exact other (List.mem_singleton.1 member).symm

theorem not_mem_toString_int {c : Char} (noDigit : c.isDigit = false) (noSign : c ≠ '-') (value : Int) :
    c ∉ (toString value).toList := by
  obtain ⟨first, others, whole, begins, digits⟩ := toList_toString_int value
  rw [whole, List.mem_cons, not_or]
  constructor
  · intro same
    rw [← same, noDigit, Bool.false_or, beq_iff_eq] at begins
    exact noSign begins
  · intro member
    rw [digits c member] at noDigit
    cases noDigit

theorem oneLine_toString_int (value : Int) : OneLine (toString value) :=
  not_mem_toString_int (by decide) (by decide) value

theorem not_mem_toString {c : Char} (noDigit : c.isDigit = false) (n : Nat) : c ∉ (toString n).toList := by
  intro member
  rw [Nat.toString_eq_repr, Nat.toList_repr] at member
  rw [Nat.isDigit_of_mem_toDigits (by decide) (by decide) member] at noDigit
  cases noDigit

theorem oneLine_toString_nat (n : Nat) : OneLine (toString n) := not_mem_toString (by decide) n

theorem oneLine_intercalate {separator : String} (one : OneLine separator) {cells : List String}
    (each : ∀ cell ∈ cells, OneLine cell) : OneLine (separator.intercalate cells) := by
  induction cells with
  | nil =>
    rw [String.intercalate_nil]
    decide
  | cons cell cells ih =>
    obtain ⟨first, others⟩ := List.forall_mem_cons.1 each
    cases cells with
    | nil =>
      rw [String.intercalate_singleton]
      exact first
    | cons next cells =>
      rw [String.intercalate_cons_cons]
      exact (first.append one).append (ih others)

theorem oneLine_row {cells : List String} (each : ∀ cell ∈ cells, OneLine cell) : OneLine (row cells) :=
  (OneLine.append (by decide) (oneLine_intercalate (by decide) each)).append (by decide)

/-- Lines without line ends are found again in the text that is made of them. -/
theorem linesOf_intercalate {lines : List String} (each : ∀ line ∈ lines, OneLine line) (some : lines ≠ []) :
    linesOf ("\n".intercalate lines) = lines := by
  have pieces : (['\n'].intercalate (lines.map String.toList)).splitOn '\n' = lines.map String.toList := by
    apply List.splitOn_intercalate
    · intro characters listed
      obtain ⟨line, member, rfl⟩ := List.mem_map.1 listed
      exact each line member
    · simpa using some
  rw [linesOf, String.toList_intercalate]
  change ((['\n'].intercalate (lines.map String.toList)).splitOn '\n').map String.ofList = lines
  rw [pieces, List.map_map]
  exact (List.map_congr_left fun line _ => String.ofList_toList).trans (List.map_id _)

end OneLine

section Beginning

theorem beginsWith_append (c : Char) {start : String} (rest : String) (some : start ≠ "") :
    beginsWith c (start ++ rest) = beginsWith c start := by
  have characters : start.toList ≠ [] := mt String.toList_eq_nil_iff.1 some
  rw [beginsWith, String.toList_append, List.head?_append_of_ne_nil _ characters, beginsWith]

theorem beginsWith_row (c : Char) (cells : List String) : beginsWith c (row cells) = (c == '|') := by
  rw [row, String.append_assoc, beginsWith_append c _ (by decide), Bool.beq_comm]
  rfl

theorem beginsWith_toString_append {c : Char} (noDigit : c.isDigit = false) (n : Nat) (rest : String) :
    beginsWith c (toString n ++ rest) = false := by
  have some : toString n ≠ "" := by
    intro empty
    have digits : Nat.toDigits 10 n = [] := by
      rw [← Nat.toList_repr, ← Nat.toString_eq_repr, empty, String.toList_empty]
    exact Nat.toDigits_ne_nil digits
  rw [beginsWith_append c rest some, beginsWith, beq_eq_false_iff_ne]
  intro first
  exact not_mem_toString noDigit n (List.mem_of_head? first)

theorem isHeading_title (title : String) : isHeading ("## " ++ title) = true :=
  beginsWith_append '#' title (by decide)

end Beginning

section Sections

variable {sections : List (String × List String)}

def written (sections : List (String × List String)) : List String := sections.flatMap fun s => headed s.1 s.2

theorem forall_mem_enclosed {P : String → Prop} {body : List String} (blank : P "") (each : ∀ line ∈ body, P line) :
    ∀ line ∈ "" :: body ++ [""], P line := by
  intro line member
  rw [List.mem_append, List.mem_cons, List.mem_singleton] at member
  obtain (rfl | inside) | rfl := member
  · exact blank
  · exact each line inside
  · exact blank

theorem isHeading_enclosed {body : List String} (plain : ∀ line ∈ body, isHeading line = false) :
    ∀ line ∈ "" :: body ++ [""], isHeading line = false :=
  forall_mem_enclosed (by decide) plain

theorem filter_isHeading_headed (title : String) {body : List String} (plain : ∀ line ∈ body, isHeading line = false) :
    (headed title body).filter isHeading = ["## " ++ title] := by
  have within : ("" :: body ++ [""]).filter isHeading = [] := by
    rw [List.filter_eq_nil_iff]
    intro line member
    simp [isHeading_enclosed plain line member]
  change (("## " ++ title) :: ("" :: body ++ [""])).filter isHeading = _
  rw [List.filter_cons_of_pos (isHeading_title title), within]

theorem filter_isHeading_written (plain : ∀ s ∈ sections, ∀ line ∈ s.2, isHeading line = false) :
    (written sections).filter isHeading = sections.map fun s => "## " ++ s.1 := by
  induction sections with
  | nil => rfl
  | cons s sections ih =>
    obtain ⟨first, others⟩ := List.forall_mem_cons.1 plain
    rw [written, List.flatMap_cons, List.filter_append, filter_isHeading_headed s.1 first, ← written, ih others]
    rfl

theorem takeWhile_written (sections : List (String × List String)) :
    (written sections).takeWhile (fun line => !isHeading line) = [] := by
  cases sections with
  | nil => rfl
  | cons s sections =>
    change List.takeWhile _ (("## " ++ s.1) :: _) = _
    rw [List.takeWhile_cons_of_neg (by simp [isHeading_title])]

theorem sectionBelow_append {heading : String} {before : List String} (absent : heading ∉ before)
    (lines : List String) : sectionBelow heading (before ++ lines) = sectionBelow heading lines := by
  rw [sectionBelow, List.dropWhile_append_of_pos (bne_of_not_mem absent), sectionBelow]

theorem heading_not_mem_headed {title other : String} {body : List String}
    (plain : ∀ line ∈ body, isHeading line = false) (different : title ≠ other) :
    "## " ++ title ∉ headed other body := by
  intro member
  rcases List.mem_cons.1 member with same | inside
  · exact different ((String.append_right_inj _).1 same)
  · have no := isHeading_enclosed plain _ inside
    rw [isHeading_title] at no
    cases no

/-- Below the title of a section stands its body between two blank lines. -/
theorem sectionBelow_written (plain : ∀ s ∈ sections, ∀ line ∈ s.2, isHeading line = false)
    (distinct : (sections.map Prod.fst).Nodup) {title : String} {body : List String}
    (listed : (title, body) ∈ sections) :
    sectionBelow ("## " ++ title) (written sections) = "" :: body ++ [""] := by
  induction sections with
  | nil => cases listed
  | cons s sections ih =>
    obtain ⟨first, others⟩ := List.forall_mem_cons.1 plain
    obtain ⟨fresh, rest⟩ := List.nodup_cons.1 distinct
    rw [written, List.flatMap_cons, ← written]
    rcases List.mem_cons.1 listed with rfl | later
    · have enclosed : ∀ line ∈ "" :: body ++ [""], (!isHeading line) = true := by
        intro line member
        rw [isHeading_enclosed first line member, Bool.not_false]
      change (List.dropWhile _ (("## " ++ title) :: ("" :: body ++ [""] ++ written sections))).tail.takeWhile _ = _
      rw [List.dropWhile_cons_of_neg (by simp), List.tail_cons, List.takeWhile_append_of_pos enclosed,
        takeWhile_written, List.append_nil]
    · have different : title ≠ s.1 := by
        rintro rfl
        exact fresh (List.mem_map.2 ⟨_, later, rfl⟩)
      rw [sectionBelow_append (heading_not_mem_headed first different), ih others rest later]

theorem oneLine_written (titles : ∀ s ∈ sections, OneLine s.1) (each : ∀ s ∈ sections, ∀ line ∈ s.2, OneLine line) :
    ∀ line ∈ written sections, OneLine line := by
  intro line member
  obtain ⟨s, listed, inside⟩ := List.mem_flatMap.1 member
  rcases List.mem_cons.1 inside with rfl | below
  · exact OneLine.append (by decide) (titles s listed)
  · exact forall_mem_enclosed (by decide) (each s listed) line below

end Sections

section Items

def itemLines (items : List (String × String)) : List String :=
  items.map fun item => "- **" ++ item.1 ++ ":** " ++ item.2

variable {items : List (String × String)}

theorem oneLine_itemLines (each : ∀ item ∈ items, OneLine item.1 ∧ OneLine item.2) :
    ∀ line ∈ itemLines items, OneLine line := by
  intro line member
  obtain ⟨item, listed, rfl⟩ := List.mem_map.1 member
  obtain ⟨label, value⟩ := each item listed
  exact ((OneLine.append (by decide) label).append (by decide)).append value

theorem isHeading_itemLines : ∀ line ∈ itemLines items, isHeading line = false := by
  intro line member
  obtain ⟨item, -, rfl⟩ := List.mem_map.1 member
  rw [String.append_assoc, String.append_assoc, isHeading, beginsWith_append '#' _ (by decide)]
  decide

theorem takeWhile_colon {label : List Char} (plain : ':' ∉ label) (rest : List Char) :
    (label ++ ':' :: rest).takeWhile (· != ':') = label := by
  rw [List.takeWhile_append_of_pos (bne_of_not_mem plain), List.takeWhile_cons_of_neg (by decide), List.append_nil]

/-- A label has no colon, so it ends where the first colon stands. -/
theorem label_unique {label other : String} (plain : ':' ∉ label.toList) (plain' : ':' ∉ other.toList)
    {rest rest' : List Char} (same : label.toList ++ ':' :: rest = other.toList ++ ':' :: rest') : label = other := by
  have characters : label.toList = other.toList := by
    rw [← takeWhile_colon plain rest, same, takeWhile_colon plain']
  exact String.toList_injective characters

theorem itemValue?_eq_some_iff {label line value : String} :
    itemValue? label line = some value ↔ line = "- **" ++ label ++ ":** " ++ value := by
  rw [itemValue?, Option.map_eq_some_iff]
  constructor
  · intro read
    obtain ⟨rest, after, rfl⟩ := read
    rw [List.isPrefixOf?_eq_some_iff_append_eq] at after
    apply String.toList_injective
    rw [← after]
    simp
  · intro written
    refine ⟨value.toList, ?_, String.ofList_toList⟩
    rw [List.isPrefixOf?_eq_some_iff_append_eq, written, ← String.toList_append]

theorem itemValue?_of_other {label other : String} (plain : ':' ∉ label.toList) (plain' : ':' ∉ other.toList)
    (different : other ≠ label) (value : String) : itemValue? label ("- **" ++ other ++ ":** " ++ value) = none := by
  rw [Option.eq_none_iff_forall_ne_some]
  intro found read
  rw [itemValue?_eq_some_iff] at read
  have labels : other.toList ++ ':' :: ("** ".toList ++ value.toList) =
      label.toList ++ ':' :: ("** ".toList ++ found.toList) := by
    simpa using congrArg String.toList read
  exact different (label_unique plain' plain labels)

theorem itemValues_itemLines {label : String} (plain : ':' ∉ label.toList)
    (each : ∀ item ∈ items, ':' ∉ item.1.toList) :
    itemValues label (itemLines items) = (items.filter fun item => item.1 == label).map Prod.snd := by
  induction items with
  | nil => rfl
  | cons item items ih =>
    obtain ⟨first, others⟩ := List.forall_mem_cons.1 each
    by_cases same : item.1 = label
    · have read : itemValue? label ("- **" ++ item.1 ++ ":** " ++ item.2) = some item.2 := by
        rw [itemValue?_eq_some_iff, same]
      rw [List.filter_cons_of_pos (by simpa using same), List.map_cons, ← ih others]
      exact List.filterMap_cons_some read
    · have passed := itemValue?_of_other plain first same item.2
      rw [List.filter_cons_of_neg (by simpa using same), ← ih others]
      exact List.filterMap_cons_none passed

theorem itemValues_enclosed (label : String) (lines : List String) :
    itemValues label ("" :: lines ++ [""]) = itemValues label lines := by
  have blank : itemValue? label "" = none := by
    rw [Option.eq_none_iff_forall_ne_some]
    intro value read
    rw [itemValue?_eq_some_iff] at read
    simpa using congrArg String.toList read
  rw [itemValues, List.filterMap_append, List.filterMap_cons_none blank, List.filterMap_cons_none blank,
    List.filterMap_nil, List.append_nil, itemValues]

end Items

section Tables

variable (header : List String) {absent : String} (rows : List (List String))

theorem table_nil : table header absent [] = [absent] := rfl

theorem table_cons (first : List String) :
    table header absent (first :: rows) =
      (header :: List.replicate header.length "---" :: first :: rows).map row := rfl

theorem rowsIn_table (noRow : beginsWith '|' absent = false) :
    rowsIn ("" :: table header absent rows ++ [""]) = rows.map row := by
  have blank : beginsWith '|' "" = false := by decide
  cases rows with
  | nil => simp [rowsIn, table_nil, noRow, blank]
  | cons first rows =>
    have kept : (table header absent (first :: rows)).filter (beginsWith '|') =
        table header absent (first :: rows) := by
      rw [List.filter_eq_self, table_cons]
      intro line member
      obtain ⟨cells, -, rfl⟩ := List.mem_map.1 member
      exact beginsWith_row '|' cells
    rw [rowsIn, List.filter_append, List.filter_cons_of_neg (by simp [blank]), kept,
      List.filter_cons_of_neg (by simp [blank]), List.filter_nil, List.append_nil, table_cons]
    rfl

theorem rowsIn_headed_table (title : String) (noRow : beginsWith '|' absent = false) :
    rowsIn (headed title (table header absent rows)) = rows.map row := by
  have heading : beginsWith '|' ("## " ++ title) = false := beginsWith_append '|' title (by decide)
  rw [← rowsIn_table header rows noRow, rowsIn, headed, List.cons_append, List.cons_append,
    List.filter_cons_of_neg (by simp [heading])]
  rfl

/-- A table without rows is replaced by a line that says so. -/
theorem absent_mem_table (noRow : beginsWith '|' absent = false) (some : absent ≠ "") :
    absent ∈ "" :: table header absent rows ++ [""] ↔ rows = [] := by
  cases rows with
  | nil => simp [table_nil]
  | cons first rows =>
    have other : absent ∉ table header absent (first :: rows) := by
      intro member
      rw [table_cons] at member
      obtain ⟨cells, -, same⟩ := List.mem_map.1 member
      rw [← same, beginsWith_row] at noRow
      cases noRow
    simp [some, other]

variable {header rows}

theorem forall_mem_table {P : String → Prop} (none : P absent)
    (each : ∀ cells ∈ header :: List.replicate header.length "---" :: rows, P (row cells)) :
    ∀ line ∈ table header absent rows, P line := by
  intro line member
  cases rows with
  | nil =>
    rw [table_nil, List.mem_singleton] at member
    rw [member]
    exact none
  | cons first rows =>
    rw [table_cons] at member
    obtain ⟨cells, listed, rfl⟩ := List.mem_map.1 member
    exact each cells listed

theorem oneLine_table (one : OneLine absent) (titles : ∀ cell ∈ header, OneLine cell)
    (each : ∀ cells ∈ rows, ∀ cell ∈ cells, OneLine cell) : ∀ line ∈ table header absent rows, OneLine line := by
  have dashes : ∀ cell ∈ List.replicate header.length "---", OneLine cell := by
    intro cell listed
    rw [List.eq_of_mem_replicate listed]
    decide
  have cellwise := List.forall_mem_cons.2 ⟨titles, List.forall_mem_cons.2 ⟨dashes, each⟩⟩
  apply forall_mem_table one
  intro cells listed
  exact oneLine_row (cellwise cells listed)

theorem isHeading_table (plain : isHeading absent = false) :
    ∀ line ∈ table header absent rows, isHeading line = false :=
  forall_mem_table plain fun cells _ => beginsWith_row '#' cells

theorem oneLine_criticalRow {f : Finding} (code : OneLine f.code) : ∀ cell ∈ criticalRow f, OneLine cell := by
  intro cell inside
  simp only [criticalRow, List.mem_cons, List.not_mem_nil, or_false] at inside
  rcases inside with rfl | rfl | rfl | rfl | rfl
  · exact oneLine_tableCell _
  · exact oneLine_toString_int _
  · exact oneLine_toString_int _
  · exact code
  · exact oneLine_tableCell _

theorem oneLine_fileRow (entry : String × Tally) : ∀ cell ∈ fileRow entry, OneLine cell := by
  intro cell inside
  simp only [fileRow, List.mem_cons, List.not_mem_nil, or_false] at inside
  rcases inside with rfl | rfl | rfl | rfl | rfl
  · exact oneLine_tableCell _
  all_goals exact oneLine_toString_int _

theorem bar_not_mem_padded {cell : List Char} (unbarred : '|' ∉ cell) : '|' ∉ ' ' :: cell ++ [' '] := by
  simp [unbarred]

theorem filter_padded {cell : List Char} (unspaced : ' ' ∉ cell) : (' ' :: cell ++ [' ']).filter (· != ' ') = cell := by
  have kept : cell.filter (· != ' ') = cell := List.filter_eq_self.2 (bne_of_not_mem unspaced)
  simp [kept]

theorem secondNumber?_row {text : String} (unbarred : '|' ∉ text.toList) (n : Nat) :
    secondNumber? (row [text, toString n]) = some n := by
  have written : (row [text, toString n]).toList =
      [] ++ '|' :: ((' ' :: text.toList ++ [' ']) ++ '|' :: ((' ' :: (toString n).toList ++ [' ']) ++ '|' :: [])) := by
    simp [row]
  have second : '|' ∉ (toString n).toList := not_mem_toString (by decide) n
  have cells : (row [text, toString n]).toList.splitOn '|' =
      [[], ' ' :: text.toList ++ [' '], ' ' :: (toString n).toList ++ [' '], []] := by
    rw [written, List.splitOn_append_cons_self_of_not_mem List.not_mem_nil,
      List.splitOn_append_cons_self_of_not_mem (bar_not_mem_padded unbarred),
      List.splitOn_append_cons_self_of_not_mem (bar_not_mem_padded second), List.splitOn_nil]
  rw [secondNumber?, cells]
  change (String.ofList ((' ' :: (toString n).toList ++ [' ']).filter (· != ' '))).toNat? = some n
  rw [filter_padded (not_mem_toString (by decide) n), String.ofList_toList]
  exact Nat.toNat?_repr n

end Tables

end TypingAudit.Report
