import TypingAudit.Proofs.Report.Lines
import TypingAudit.Proofs.Summary.Reordering

/-!
The cells of a table row. A bar separates two cells when the run of backslashes directly before it has even length. A
text that goes into a cell gets one more backslash before each of its bars, and its own backslashes stay as they are: so
a bar behind an even run is kept inside the cell, and one behind an odd run separates although it was meant not to. A
row has the cells it was made of and one more for each bar of that kind in its texts.
-/

namespace TypingAudit.Report

open Audit Summary

/-- The number of backslashes directly before a place, where `before` lists what stands before it, the nearest first. -/
def backslashRun (before : List Char) : Nat := (before.takeWhile (· == '\\')).length

def separates (run : Nat) : Bool := run % 2 == 0

/-- The pieces into which separating bars divide a text that stands behind `before`. -/
def piecesBehind (before : List Char) : List Char → List (List Char)
  | [] => [[]]
  | c :: rest =>
    if c = '|' ∧ separates (backslashRun before) then [] :: piecesBehind (c :: before) rest
    else (piecesBehind (c :: before) rest).modifyHead (c :: ·)

def piecesOf (text : String) : List String := (piecesBehind [] text.toList).map String.ofList

/-- The cells of a line: the pieces between the first separating bar and the last one. -/
def cellsOf (line : String) : List String := (piecesOf line).tail.dropLast

def padded (cell : String) : String := " " ++ cell ++ " "

def barsBehind (fits : Nat → Bool) (before : List Char) : List Char → Nat
  | [] => 0
  | c :: rest => (if c = '|' ∧ fits (backslashRun before) then 1 else 0) + barsBehind fits (c :: before) rest

def separatingBars (text : String) : Nat := barsBehind separates [] text.toList

/-- The number of bars in a text that stand behind an odd number of backslashes. -/
def looseBars (text : String) : Nat := barsBehind (fun run => run % 2 == 1) [] text.toList

section Runs

theorem backslashRun_cons (c : Char) (before : List Char) :
    backslashRun (c :: before) = if c = '\\' then backslashRun before + 1 else 0 := by
  by_cases slash : c = '\\'
  · rw [if_pos slash, slash]
    rfl
  · rw [if_neg slash, backslashRun, List.takeWhile_cons_of_neg (by simpa using slash), List.length_nil]

theorem backslashRun_cons_of_ne {c : Char} (other : c ≠ '\\') (before : List Char) :
    backslashRun (c :: before) = 0 := by
  rw [backslashRun_cons, if_neg other]

theorem backslashRun_cons_congr {before before' : List Char} (same : backslashRun before = backslashRun before')
    (c : Char) : backslashRun (c :: before) = backslashRun (c :: before') := by
  rw [backslashRun_cons, backslashRun_cons, same]

theorem barsBehind_congr (fits : Nat → Bool) {before before' : List Char}
    (same : backslashRun before = backslashRun before') (text : List Char) :
    barsBehind fits before text = barsBehind fits before' text := by
  induction text generalizing before before' with
  | nil => rfl
  | cons c rest ih => rw [barsBehind, barsBehind, same, ih (backslashRun_cons_congr same c)]

theorem piecesBehind_congr {before before' : List Char} (same : backslashRun before = backslashRun before')
    (text : List Char) : piecesBehind before text = piecesBehind before' text := by
  induction text generalizing before before' with
  | nil => rfl
  | cons c rest ih => rw [piecesBehind, piecesBehind, same, ih (backslashRun_cons_congr same c)]

end Runs

section Bars

variable (fits : Nat → Bool)

theorem barsBehind_cons_of_ne {c : Char} (other : c ≠ '|') (before rest : List Char) :
    barsBehind fits before (c :: rest) = barsBehind fits (c :: before) rest := by
  rw [barsBehind, if_neg fun bar => other bar.1, Nat.zero_add]

theorem barsBehind_of_not_mem {text : List Char} (unbarred : '|' ∉ text) (before : List Char) :
    barsBehind fits before text = 0 := by
  induction text generalizing before with
  | nil => rfl
  | cons c rest ih =>
    rw [List.mem_cons, not_or] at unbarred
    rw [barsBehind_cons_of_ne fits (Ne.symm unbarred.1), ih unbarred.2]

theorem barsBehind_append (before first second : List Char) :
    barsBehind fits before (first ++ second) =
      barsBehind fits before first + barsBehind fits (first.reverse ++ before) second := by
  induction first generalizing before with
  | nil => rw [List.nil_append, List.reverse_nil, List.nil_append, barsBehind, Nat.zero_add]
  | cons c first ih =>
    rw [List.cons_append, barsBehind, ih, barsBehind, List.reverse_cons, List.append_assoc, Nat.add_assoc]
    rfl

/-- In a cell, a bar has one backslash more before it than in the text. -/
theorem barsBehind_flatMap_cellChar (text : List Char) {before before' : List Char}
    (same : backslashRun before' = backslashRun before) :
    barsBehind fits before' (text.flatMap cellChar) = barsBehind (fun run => fits (run + 1)) before text := by
  induction text generalizing before before' with
  | nil => rfl
  | cons c rest ih =>
    rw [List.flatMap_cons]
    by_cases bar : c = '|'
    · subst bar
      have run : backslashRun ('\\' :: before') = backslashRun before + 1 := by
        rw [backslashRun_cons, if_pos rfl, same]
      have after : backslashRun ('|' :: '\\' :: before') = backslashRun ('|' :: before) := by
        rw [backslashRun_cons_of_ne (by decide), backslashRun_cons_of_ne (by decide)]
      change barsBehind fits before' ('\\' :: '|' :: rest.flatMap cellChar) = _
      rw [barsBehind_cons_of_ne fits (by decide), barsBehind, barsBehind, run, ih after]
    · by_cases newline : c = '\n'
      · subst newline
        have after : backslashRun (' ' :: before') = backslashRun ('\n' :: before) := by
          rw [backslashRun_cons_of_ne (by decide), backslashRun_cons_of_ne (by decide)]
        change barsBehind fits before' (' ' :: rest.flatMap cellChar) = _
        rw [barsBehind_cons_of_ne fits (by decide), barsBehind_cons_of_ne _ bar, ih after]
      · have kept : cellChar c = [c] := by rw [cellChar, if_neg bar, if_neg newline]
        rw [kept, List.singleton_append, barsBehind_cons_of_ne fits bar, barsBehind_cons_of_ne _ bar,
          ih (backslashRun_cons_congr same c)]

end Bars

section Pieces

theorem length_piecesBehind (before text : List Char) :
    (piecesBehind before text).length = barsBehind separates before text + 1 := by
  induction text generalizing before with
  | nil => rfl
  | cons c rest ih =>
    rw [piecesBehind, barsBehind]
    by_cases bar : c = '|' ∧ separates (backslashRun before)
    · rw [if_pos bar, if_pos bar, List.length_cons, ih]
      omega
    · rw [if_neg bar, if_neg bar, List.length_modifyHead, ih, Nat.zero_add]

theorem piecesBehind_of_none {before text : List Char} (none : barsBehind separates before text = 0) :
    piecesBehind before text = [text] := by
  induction text generalizing before with
  | nil => rfl
  | cons c rest ih =>
    rw [barsBehind, Nat.add_eq_zero_iff] at none
    have inside : ¬(c = '|' ∧ separates (backslashRun before)) := by
      intro bar
      rw [if_pos bar] at none
      omega
    rw [piecesBehind, if_neg inside, ih none.2, List.modifyHead_cons]

theorem piecesBehind_ne_nil (before text : List Char) : piecesBehind before text ≠ [] := by
  have some := length_piecesBehind before text
  intro empty
  rw [empty, List.length_nil] at some
  omega

theorem piecesBehind_append_bar {before text : List Char} (even : separates (backslashRun (text.reverse ++ before)))
    (rest : List Char) :
    piecesBehind before (text ++ '|' :: rest) = piecesBehind before text ++ piecesBehind ['|'] rest := by
  induction text generalizing before with
  | nil =>
    have after : backslashRun ('|' :: before) = backslashRun ['|'] := by
      rw [backslashRun_cons_of_ne (by decide), backslashRun_cons_of_ne (by decide)]
    have bar : '|' = '|' ∧ separates (backslashRun before) = true := ⟨rfl, even⟩
    rw [List.nil_append, piecesBehind, piecesBehind, if_pos bar, piecesBehind_congr after, List.singleton_append]
  | cons c text ih =>
    rw [List.reverse_cons, List.append_assoc, List.singleton_append] at even
    rw [List.cons_append, piecesBehind, piecesBehind, ih even]
    by_cases bar : c = '|' ∧ separates (backslashRun before)
    · rw [if_pos bar, if_pos bar, List.cons_append]
    · obtain ⟨piece, pieces, split⟩ := List.exists_cons_of_ne_nil (piecesBehind_ne_nil (c :: before) text)
      rw [if_neg bar, if_neg bar, split]
      rfl

end Pieces

section Row

theorem toList_padded (cell : String) : (padded cell).toList = ' ' :: cell.toList ++ [' '] := by
  simp [padded]

theorem separatingBars_padded (cell : String) : separatingBars (padded cell) = separatingBars cell := by
  have after : backslashRun [' '] = backslashRun [] := backslashRun_cons_of_ne (by decide) []
  have last : '|' ∉ [' '] := by decide
  rw [separatingBars, toList_padded, List.cons_append, barsBehind_cons_of_ne _ (by decide), barsBehind_append,
    barsBehind_of_not_mem _ last, Nat.add_zero, barsBehind_congr _ after, separatingBars]

theorem length_piecesOf_padded (cell : String) : (piecesOf (padded cell)).length = 1 + separatingBars cell := by
  rw [piecesOf, List.length_map, length_piecesBehind, ← separatingBars, separatingBars_padded, Nat.add_comm]

theorem piecesOf_padded_of_none {cell : String} (none : separatingBars cell = 0) :
    piecesOf (padded cell) = [padded cell] := by
  rw [← separatingBars_padded] at none
  rw [piecesOf, piecesBehind_of_none none, List.map_singleton, String.ofList_toList]

theorem toList_row {cells : List String} (some : cells ≠ []) :
    (row cells).toList = '|' :: cells.flatMap fun cell => (padded cell).toList ++ ['|'] := by
  obtain ⟨cell, cells, rfl⟩ := List.exists_cons_of_ne_nil some
  have body : (" " ++ " | ".intercalate (cell :: cells) ++ " |").toList =
      (cell :: cells).flatMap fun cell => (padded cell).toList ++ ['|'] := by
    clear some
    induction cells generalizing cell with
    | nil => simp [padded]
    | cons next cells ih =>
      rw [List.flatMap_cons, ← ih next, String.intercalate_cons_cons]
      simp [padded]
  rw [← body, row]
  simp

theorem piecesBehind_cells (cells : List String) :
    piecesBehind ['|'] (cells.flatMap fun cell => (padded cell).toList ++ ['|']) =
      (cells.flatMap fun cell => piecesBehind [] (padded cell).toList) ++ [[]] := by
  have start : backslashRun ['|'] = backslashRun [] := backslashRun_cons_of_ne (by decide) []
  induction cells with
  | nil => rfl
  | cons cell cells ih =>
    -- the bar behind a cell separates, since the blank before it ends every run of backslashes
    have even : separates (backslashRun ((padded cell).toList.reverse ++ ['|'])) = true := by
      rw [toList_padded, List.reverse_append, List.reverse_singleton, List.append_assoc, List.singleton_append,
        backslashRun_cons_of_ne (by decide)]
      rfl
    rw [List.flatMap_cons, List.append_assoc, List.singleton_append, piecesBehind_append_bar even, ih,
      piecesBehind_congr start, List.flatMap_cons, List.append_assoc]

theorem cellsOf_row {cells : List String} (some : cells ≠ []) :
    cellsOf (row cells) = cells.flatMap fun cell => piecesOf (padded cell) := by
  have first : piecesBehind [] (row cells).toList = [] :: piecesBehind ['|'] (cells.flatMap fun cell =>
      (padded cell).toList ++ ['|']) := by
    rw [toList_row some, piecesBehind, if_pos ⟨rfl, rfl⟩]
  rw [cellsOf, piecesOf, first, piecesBehind_cells, List.map_cons, List.tail_cons, List.map_append,
    List.map_singleton, List.dropLast_concat, List.map_flatMap]
  rfl

theorem length_cellsOf_row {cells : List String} (some : cells ≠ []) :
    (cellsOf (row cells)).length = cells.length + (cells.map separatingBars).sum := by
  rw [cellsOf_row some, List.length_flatMap]
  simp only [length_piecesOf_padded]
  rw [List.sum_map_add, List.map_const', List.sum_replicate, smul_eq_mul, Nat.mul_one]

theorem cellsOf_row_eq_iff {cells : List String} (some : cells ≠ []) :
    cellsOf (row cells) = cells.map padded ↔ ∀ cell ∈ cells, separatingBars cell = 0 := by
  constructor
  · intro kept
    have width := length_cellsOf_row some
    rw [kept, List.length_map, Nat.left_eq_add, List.sum_eq_zero_iff, List.forall_mem_map] at width
    exact width
  · intro none
    rw [cellsOf_row some, List.flatMap_congr fun cell listed => piecesOf_padded_of_none (none cell listed)]
    exact List.flatMap_pure_eq_map padded cells

end Row

section Contents

theorem separatingBars_of_not_mem {text : String} (unbarred : '|' ∉ text.toList) : separatingBars text = 0 :=
  barsBehind_of_not_mem _ unbarred []

theorem separatingBars_toString_int (value : Int) : separatingBars (toString value) = 0 :=
  separatingBars_of_not_mem (not_mem_toString_int (by decide) (by decide) value)

/-- The bar that separates in a cell is the one that is loose in its text. -/
theorem separatingBars_tableCell (text : String) : separatingBars (tableCell text) = looseBars text := by
  have odd : (fun run => separates (run + 1)) = fun run => run % 2 == 1 := by
    funext run
    rw [separates, Bool.eq_iff_iff, beq_iff_eq, beq_iff_eq]
    omega
  rw [separatingBars, tableCell, String.toList_ofList, barsBehind_flatMap_cellChar _ _ rfl, odd, looseBars]

end Contents

section Tables

/-- How a line reads that was made of cells, some of which are made of texts, for a table with so many columns. -/
structure ReadsAsRow (columns : Nat) (cells texts : List String) (line : String) : Prop where
  oneLine : OneLine line
  /-- There is a cell for each column, and one more for each loose bar of the texts. -/
  width : (cellsOf line).length = columns + (texts.map looseBars).sum
  kept_iff : cellsOf line = cells.map padded ↔ ∀ text ∈ texts, looseBars text = 0

structure ReadsAsTable {α : Type} (title : String) (header : List String) (cells texts : α → List String)
    (entries : List α) (lines : List String) : Prop where
  layout : entries ≠ [] → lines = headed title (row header :: ruler header.length :: rowsIn lines)
  titles : cellsOf (row header) = header.map padded
  rows : List.Forall₂ (fun line e => ReadsAsRow header.length (cells e) (texts e) line) (rowsIn lines) entries

theorem readsAsRow_row {cells texts : List String} (some : cells ≠ []) (one : ∀ cell ∈ cells, OneLine cell)
    (bars : (cells.map separatingBars).sum = (texts.map looseBars).sum) :
    ReadsAsRow cells.length cells texts (row cells) where
  oneLine := oneLine_row one
  width := by rw [length_cellsOf_row some, bars]
  kept_iff := by
    have none : (∀ cell ∈ cells, separatingBars cell = 0) ↔ (cells.map separatingBars).sum = 0 := by
      rw [List.sum_eq_zero_iff, List.forall_mem_map]
    rw [cellsOf_row_eq_iff some, none, bars, List.sum_eq_zero_iff, List.forall_mem_map]

variable {α : Type} {header : List String} {cells texts : α → List String} {entries : List α}

theorem readsAsTable_headed (title : String) {absent : String} (noRow : beginsWith '|' absent = false)
    (some : header ≠ []) (titles : ∀ cell ∈ header, '|' ∉ cell.toList)
    (same : ∀ e ∈ entries, (cells e).length = header.length) (one : ∀ e ∈ entries, ∀ cell ∈ cells e, OneLine cell)
    (bars : ∀ e ∈ entries, ((cells e).map separatingBars).sum = ((texts e).map looseBars).sum) :
    ReadsAsTable title header cells texts entries (headed title (table header absent (entries.map cells))) where
  layout := by
    intro listed
    obtain ⟨first, others, rfl⟩ := List.exists_cons_of_ne_nil listed
    rw [rowsIn_headed_table _ _ title noRow]
    rfl
  titles := (cellsOf_row_eq_iff some).2 fun cell listed => separatingBars_of_not_mem (titles cell listed)
  rows := by
    rw [rowsIn_headed_table _ _ title noRow, List.map_map, List.forall₂_map_left_iff, List.forall₂_same]
    intro e listed
    have made : cells e ≠ [] := by
      rw [← List.length_pos_iff, same e listed]
      exact List.length_pos_iff.2 some
    rw [← same e listed]
    exact readsAsRow_row made (one e listed) (bars e listed)

theorem length_criticalRow (f : Finding) : (criticalRow f).length = 5 := rfl

theorem length_fileRow (entry : String × Tally) : (fileRow entry).length = 5 := rfl

theorem sum_criticalRow {f : Finding} (code : '|' ∉ f.code.toList) :
    ((criticalRow f).map separatingBars).sum = ([f.unitPath, f.message].map looseBars).sum := by
  simp only [criticalRow, List.map_cons, List.map_nil, List.sum_cons, List.sum_nil, separatingBars_tableCell,
    separatingBars_toString_int, separatingBars_of_not_mem code, Nat.zero_add]

theorem sum_fileRow (entry : String × Tally) :
    ((fileRow entry).map separatingBars).sum = ([entry.1].map looseBars).sum := by
  simp only [fileRow, List.map_cons, List.map_nil, List.sum_cons, List.sum_nil, separatingBars_tableCell,
    separatingBars_toString_int, Nat.zero_add]

theorem isInfix_criticalSection (r : Run) : criticalSection r <:+: markdownLines r :=
  ⟨"# Type Safety Report" :: "" :: overviewSection r, patternsSection r ++ filesSection r ++ recommendationsSection, by
    simp [markdownLines]⟩

end Tables

/-- The rows about errors and about files stay in their lines, and each has the five cells of its header and one more
for every bar behind an odd number of backslashes in its path and message. Only without such bars the cells are those
that the row was made of. -/
theorem rows_widened_by_loose_bars (r : Run) (plain : ∀ f ∈ r.findings, '|' ∉ f.code.toList ∧ '\n' ∉ f.code.toList) :
    criticalSection r <:+: markdownLines r ∧
      ReadsAsTable "Critical Issues" ["File", "Line", "Column", "Code", "Message"] criticalRow
        (fun f => [f.unitPath, f.message]) (r.findings.filter (·.severity == Severity.error)) (criticalSection r) ∧
      filesSection r <:+: markdownLines r ∧
      ReadsAsTable "Files with Most Issues" ["File", "Total", "Errors", "Warnings", "Info"] fileRow
        (fun entry => [entry.1]) (r.statistics.perUnit.take unitsShown) (filesSection r) := by
  refine ⟨isInfix_criticalSection r, ?_, filesSection_infix r, ?_⟩
  · apply readsAsTable_headed _ (by decide) (by decide) (by decide)
    · intro f _
      exact length_criticalRow f
    · intro f found
      exact oneLine_criticalRow (plain f (List.mem_filter.1 found).1).2
    · intro f found
      exact sum_criticalRow (plain f (List.mem_filter.1 found).1).1
  · apply readsAsTable_headed _ (by decide) (by decide) (by decide)
    · intro entry _
      exact length_fileRow entry
    · intro entry _
      exact oneLine_fileRow entry
    · intro entry _
      exact sum_fileRow entry

/-- A run in whose texts bars stand behind two backslashes, behind a line end and behind none. -/
def barredRun : Run :=
  ⟨"now", ⟨1, 1, ⟨1, 0, 0⟩, [(Code.unsafeCoercion, 1)], [("a\\\\|b.py", ⟨1, 0, 0⟩)]⟩,
    [⟨"a\\\\|b.py", 1, -2, Severity.error, Code.unsafeCoercion, "int(x|\n|\\)", none⟩]⟩

theorem barredRun_keeps_cells :
    (∀ f ∈ barredRun.findings, '|' ∉ f.code.toList ∧ '\n' ∉ f.code.toList) ∧
      (rowsIn (criticalSection barredRun)).map cellsOf =
        [[" a\\\\\\|b.py ", " 1 ", " -2 ", " UNSAFE-COERCION ", " int(x\\| \\|\\) "]] ∧
      (rowsIn (filesSection barredRun)).map cellsOf = [[" a\\\\\\|b.py ", " 1 ", " 1 ", " 0 ", " 0 "]] := by
  have plain : ∀ f ∈ barredRun.findings, '|' ∉ f.code.toList ∧ '\n' ∉ f.code.toList := by
    intro f found
    cases List.mem_singleton.1 found
    exact ⟨not_mem_ofList (by decide), not_mem_ofList (by decide)⟩
  obtain ⟨-, critical, -, files⟩ := rows_widened_by_loose_bars barredRun plain
  refine ⟨plain, ?_, ?_⟩
  · obtain ⟨line, lines, reads, none, split⟩ := List.forall₂_cons_right_iff.1 critical.rows
    rw [List.forall₂_nil_right_iff.1 none] at split
    rewrite [split, List.map_singleton, reads.kept_iff.2 (by decide)]
    decide +kernel
  · obtain ⟨line, lines, reads, none, split⟩ := List.forall₂_cons_right_iff.1 files.rows
    rw [List.forall₂_nil_right_iff.1 none] at split
    rewrite [split, List.map_singleton, reads.kept_iff.2 (by decide)]
    decide +kernel

def backslashedFile : UnitResult :=
  ⟨"a\\|b.py", [⟨"a\\|b.py", 1, 1, Severity.error, Code.unsafeCoercion, "Unsafe type coercion: int(x)", none⟩]⟩

theorem backslashed_bar_adds_cell :
    ∃ r, summarize "now" [backslashedFile] = .ok r ∧
      (∀ f ∈ r.findings, '|' ∉ f.code.toList ∧ '\\' ∉ f.code.toList ∧ '\n' ∉ f.code.toList) ∧
      (rowsIn (criticalSection r)).map cellsOf =
        [[" a\\\\", "b.py ", " 1 ", " 1 ", " UNSAFE-COERCION ", " Unsafe type coercion: int(x) "]] ∧
      (rowsIn (filesSection r)).map cellsOf = [[" a\\\\", "b.py ", " 1 ", " 1 ", " 0 ", " 0 "]] := by
  have known : firstUnknown? (allFindings [backslashedFile]) = none := by decide
  refine ⟨runOf "now" [backslashedFile], summarize_of_known known, ?_, by decide +kernel, by decide +kernel⟩
  intro f found
  cases List.mem_singleton.1 found
  exact ⟨not_mem_ofList (by decide), not_mem_ofList (by decide), not_mem_ofList (by decide)⟩

end TypingAudit.Report
