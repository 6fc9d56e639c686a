import TypingAudit.Proofs.Json.Tokens
import TypingAudit.Report.Document

/-!
The words that a document is written with. Every escape of a text stands for the character it was made from, a number
is written in the one way in which JSON has it, and the blanks and line ends between the words are passed over.
-/

namespace TypingAudit.Report

open Json

def Delimited (rest : List Char) : Prop := ∀ c, rest.head? = some c → Scan.isNumberChar c = false

/-- The text is read as the words, whatever follows. -/
def SpellsFirmly (text : List Char) (tokens : List Token) : Prop :=
  ∀ rest, scan .blank (text ++ rest) = (scan .blank rest).map (tokens ++ ·)

/-- The text is read as the words, when what follows does not go on with a number. -/
def Spells (text : List Char) (tokens : List Token) : Prop :=
  ∀ rest, Delimited rest → scan .blank (text ++ rest) = (scan .blank rest).map (tokens ++ ·)

section Spells

variable {text others : List Char} {tokens more : List Token}

theorem map_append_append (tokens more : List Token) (read : Option (List Token)) :
    (read.map (more ++ ·)).map (tokens ++ ·) = read.map (tokens ++ more ++ ·) := by
  rw [Option.map_map]
  congr 1
  funext tail
  exact (List.append_assoc ..).symm

theorem SpellsFirmly.spells (firmly : SpellsFirmly text tokens) : Spells text tokens := fun rest _ => firmly rest

theorem SpellsFirmly.append (first : SpellsFirmly text tokens) (second : SpellsFirmly others more) :
    SpellsFirmly (text ++ others) (tokens ++ more) := by
  intro rest
  rw [List.append_assoc, first, second, map_append_append]

theorem SpellsFirmly.append_spells (first : SpellsFirmly text tokens) (second : Spells others more) :
    Spells (text ++ others) (tokens ++ more) := by
  intro rest delimited
  rw [List.append_assoc, first, second rest delimited, map_append_append]

/-- A word whose end must be shown is ended by what follows it. -/
theorem Spells.append_firmly (first : Spells text tokens) (second : SpellsFirmly others more)
    (breaks : ∀ rest, Delimited (others ++ rest)) : SpellsFirmly (text ++ others) (tokens ++ more) := by
  intro rest
  rw [List.append_assoc, first _ (breaks rest), second, map_append_append]

end Spells

theorem delimited_cons {c : Char} (other : Scan.isNumberChar c = false) (rest : List Char) : Delimited (c :: rest) := by
  intro first same
  cases same
  exact other

section Text

open Document

theorem hexValue?_hexDigit (n : Nat) : Scan.hexValue? (hexDigit n) = some (n % 16) := by
  have small : n % 16 < 16 := Nat.mod_lt n (by decide)
  have all : ∀ k < 16, Scan.hexValue? ("0123456789abcdef".toList.getD k '0') = some k := by decide
  exact all (n % 16) small

theorem step_hexDigit {read : List Char} {high : Option Nat} {digits : List Nat} (few : digits.length < 3) (n : Nat) :
    Scan.step (.inUnit read high digits) (hexDigit n) = some ([], .inUnit read high (digits ++ [n % 16])) := by
  have more : (digits ++ [n % 16]).length < 4 := by
    rw [List.length_append, List.length_singleton]
    omega
  simp only [Scan.step, hexValue?_hexDigit, Option.bind_eq_bind, Option.bind_some, if_pos more, Option.pure_def]

theorem scan_unit {read : List Char} {high : Option Nat} {n : Nat} (bounded : n < 0x10000) {next : Scan}
    (taken : Scan.takeUnit read high n = some next) (rest : List Char) :
    scan (.inUnit read high [])
        (hexDigit (n / 4096) :: hexDigit (n / 256) :: hexDigit (n / 16) :: hexDigit n :: rest) = scan next rest := by
  have value : 16 * (16 * (16 * (16 * 0 + n / 4096 % 16) + n / 256 % 16) + n / 16 % 16) + n % 16 = n := by omega
  have last : Scan.step (.inUnit read high [n / 4096 % 16, n / 256 % 16, n / 16 % 16]) (hexDigit n) =
      some ([], next) := by
    simp only [Scan.step, hexValue?_hexDigit, Option.bind_eq_bind, Option.bind_some]
    rw [if_neg (by simp)]
    change (Scan.takeUnit read high
      (16 * (16 * (16 * (16 * 0 + n / 4096 % 16) + n / 256 % 16) + n / 16 % 16) + n % 16)).bind _ = _
    rw [value, taken]
    rfl
  rw [scan_cons_inside (step_hexDigit (by simp) _), scan_cons_inside (step_hexDigit (by simp) _),
    scan_cons_inside (step_hexDigit (by simp) _)]
  exact scan_cons_inside last rest

theorem takeUnit_toNat {c : Char} (plane : c.toNat < 0x10000) (read : List Char) :
    Scan.takeUnit read none c.toNat = some (.inText (read ++ [c])) := by
  have valid : ¬(0xD800 ≤ c.toNat ∧ c.toNat ≤ 0xDFFF) := c.toNat_not_surrogate
  rw [Scan.takeUnit, if_neg (by omega), if_neg (by omega), Char.ofNat_toNat]

theorem takeUnit_pair {c : Char} (above : ¬c.toNat < 0x10000) (read : List Char) :
    Scan.takeUnit read none (0xD800 + (c.toNat - 0x10000) / 0x400) =
        some (.afterHigh read (0xD800 + (c.toNat - 0x10000) / 0x400)) ∧
      Scan.takeUnit read (some (0xD800 + (c.toNat - 0x10000) / 0x400)) (0xDC00 + (c.toNat - 0x10000) % 0x400) =
        some (.inText (read ++ [c])) := by
  have largest : c.toNat ≤ 0x10FFFF := c.toNat_le_max
  have both : 0x10000 + (0xD800 + (c.toNat - 0x10000) / 0x400 - 0xD800) * 0x400 +
      (0xDC00 + (c.toNat - 0x10000) % 0x400 - 0xDC00) = c.toNat := by omega
  constructor
  · rw [Scan.takeUnit, if_pos (by omega)]
  · rw [Scan.takeUnit, if_pos (by omega), both, Char.ofNat_toNat]

theorem scan_units (read : List Char) (c : Char) (rest : List Char) :
    scan (.inText read) ((units c).flatMap unitEscape ++ rest) = scan (.inText (read ++ [c])) rest := by
  have opened : Scan.step (.inText read) '\\' = some ([], .escaped read) := rfl
  have unit : Scan.step (.escaped read) 'u' = some ([], .inUnit read none []) := rfl
  by_cases plane : c.toNat < 0x10000
  · rw [units, if_pos plane]
    change scan (.inText read) ('\\' :: 'u' :: _ :: _ :: _ :: _ :: rest) = _
    rw [scan_cons_inside opened, scan_cons_inside unit]
    exact scan_unit plane (takeUnit_toNat plane read) rest
  · have largest : c.toNat ≤ 0x10FFFF := c.toNat_le_max
    obtain ⟨first, second⟩ := takeUnit_pair plane read
    rw [units, if_neg plane]
    generalize high_eq : 0xD800 + (c.toNat - 0x10000) / 0x400 = high at first second
    generalize low_eq : 0xDC00 + (c.toNat - 0x10000) % 0x400 = low at second
    have between : Scan.step (.afterHigh read high) '\\' = some ([], .beforeLow read high) := rfl
    have again : Scan.step (.beforeLow read high) 'u' = some ([], .inUnit read (some high) []) := rfl
    change scan (.inText read) ('\\' :: 'u' :: _ :: _ :: _ :: _ :: '\\' :: 'u' :: _ :: _ :: _ :: _ :: rest) = _
    rw [scan_cons_inside opened, scan_cons_inside unit, scan_unit (by omega) first, scan_cons_inside between,
      scan_cons_inside again]
    exact scan_unit (by omega) second rest

/-- The cases of an escape: a backslash and one character, the character itself, or its units. -/
theorem scan_escapeChar (read : List Char) (c : Char) (rest : List Char) :
    scan (.inText read) (escapeChar c ++ rest) = scan (.inText (read ++ [c])) rest := by
  have short (letter meant : Char) (other : letter ≠ 'u') (stands : Scan.escape? letter = some meant) :
      scan (.inText read) ('\\' :: letter :: rest) = scan (.inText (read ++ [meant])) rest := by
    have opened : Scan.step (.inText read) '\\' = some ([], .escaped read) := rfl
    have closed : Scan.step (.escaped read) letter = some ([], .inText (read ++ [meant])) := by
      rw [Scan.step, if_neg other, stands]
      rfl
    rw [scan_cons_inside opened, scan_cons_inside closed]
  unfold escapeChar
  split
  case isTrue same => exact same ▸ short '"' '"' (by decide) rfl
  case isFalse quote =>
  split
  case isTrue same => exact same ▸ short '\\' '\\' (by decide) rfl
  case isFalse backslash =>
  split
  case isTrue same => exact same ▸ short 'n' '\n' (by decide) rfl
  case isFalse =>
  split
  case isTrue same => exact same ▸ short 'r' '\r' (by decide) rfl
  case isFalse =>
  split
  case isTrue same => exact same ▸ short 't' '\t' (by decide) rfl
  case isFalse =>
  split
  case isTrue same => exact same ▸ short 'f' '\x0c' (by decide) rfl
  case isFalse =>
  split
  case isTrue same => exact same ▸ short 'b' '\x08' (by decide) rfl
  case isFalse =>
  split
  case isTrue printable =>
    have plain : Scan.step (.inText read) c = some ([], .inText (read ++ [c])) := by
      rw [Scan.step, if_neg quote, if_neg backslash, if_neg (not_lt.2 printable.1)]
    exact scan_cons_inside plain rest
  case isFalse => exact scan_units read c rest

theorem scan_escaped (read characters : List Char) (rest : List Char) :
    scan (.inText read) (characters.flatMap escapeChar ++ rest) = scan (.inText (read ++ characters)) rest := by
  induction characters generalizing read with
  | nil => rw [List.flatMap_nil, List.nil_append, List.append_nil]
  | cons c characters ih =>
    rw [List.flatMap_cons, List.append_assoc, scan_escapeChar, ih, List.append_assoc]
    rfl

theorem spells_quoted (s : String) : SpellsFirmly (quoted s) [.text s] := by
  intro rest
  have opened : Scan.step .blank '"' = some ([], .inText []) := rfl
  have closed : Scan.step (.inText s.toList) '"' = some ([.text s], .blank) := by
    rw [Scan.step, if_pos rfl, String.ofList_toList]
  change scan .blank ('"' :: (s.toList.flatMap escapeChar ++ ['"'] ++ rest)) = _
  rw [scan_cons_inside opened, List.append_assoc, scan_escaped, List.nil_append]
  exact scan_cons closed rest

end Text

section Number

theorem eq_zero_of_head?_toDigits {n : Nat} (zero : (Nat.toDigits 10 n).head? = some '0') : n = 0 := by
  induction n using Nat.strongRecOn with
  | ind n ih =>
    by_cases small : n < 10
    · rw [Nat.toDigits_of_lt_base small, List.head?_cons, Option.some.injEq, Nat.digitChar_eq_zero] at zero
      exact zero
    · rw [Nat.toDigits_of_base_le (by decide) (by omega), List.head?_append_of_ne_nil _ Nat.toDigits_ne_nil] at zero
      have tens := ih (n / 10) (by omega) zero
      omega

theorem unsigned?_toDigits (n : Nat) : Scan.unsigned? (Nat.toDigits 10 n) = some (↑n, 0) := by
  have digits : ∀ c ∈ Nat.toDigits 10 n, c.isDigit = true :=
    fun c member => Nat.isDigit_of_mem_toDigits (by decide) (by decide) member
  have whole : (Nat.toDigits 10 n).takeWhile Char.isDigit = Nat.toDigits 10 n := List.takeWhile_eq_self_iff.2 digits
  have none : (Nat.toDigits 10 n).dropWhile Char.isDigit = [] := List.dropWhile_eq_nil_iff.2 digits
  have proper : ¬(Nat.toDigits 10 n = [] ∨
      ((Nat.toDigits 10 n).head? = some '0' ∧ 1 < (Nat.toDigits 10 n).length)) := by
    rintro (empty | ⟨zero, long⟩)
    · exact Nat.toDigits_ne_nil empty
    · rw [eq_zero_of_head?_toDigits zero] at long
      revert long
      decide
  unfold Scan.unsigned?
  dsimp only
  rw [whole, none, if_neg proper]
  change some ((Nat.ofDigitChars 10 (Nat.toDigits 10 n ++ []) 0 : Int), (0 - 0 : Int)) = _
  rw [List.append_nil, Nat.ofDigitChars_ten_toDigits]
  rfl

theorem number?_of_digits {read : List Char} (digits : ∀ c ∈ read, c.isDigit = true) :
    Scan.number? read = (Scan.unsigned? read).map fun n => .number n.1 n.2 := by
  unfold Scan.number?
  split
  · exact absurd (digits '-' List.mem_cons_self) (by decide)
  · rfl

theorem number?_toString (value : Int) : Scan.number? (toString value).toList = some (.number value 0) := by
  rw [Int.toString_eq_repr, Int.repr_eq_if]
  split
  · rename_i natural
    rw [Nat.toList_repr, number?_of_digits fun c => Nat.isDigit_of_mem_toDigits (by decide) (by decide),
      unsigned?_toDigits, Option.map_some, Int.toNat_of_nonneg natural]
  · rename_i negative
    rw [String.toList_append, Nat.toList_repr]
    change (Scan.unsigned? (Nat.toDigits 10 (-value).toNat)).map _ = _
    rw [unsigned?_toDigits, Option.map_some, Int.toNat_of_nonneg (by omega), Int.neg_neg]

theorem scan_inNumber {characters : List Char} (number : ∀ c ∈ characters, Scan.isNumberChar c = true)
    (read rest : List Char) :
    scan (.inNumber read) (characters ++ rest) = scan (.inNumber (read ++ characters)) rest := by
  induction characters generalizing read with
  | nil => rw [List.nil_append, List.append_nil]
  | cons c characters ih =>
    obtain ⟨first, others⟩ := List.forall_mem_cons.1 number
    have stepped : Scan.step (.inNumber read) c = some ([], .inNumber (read ++ [c])) := by rw [Scan.step, if_pos first]
    rw [List.cons_append, scan_cons_inside stepped, ih others, List.append_assoc]
    rfl

theorem scan_endNumber {read : List Char} {token : Token} (ended : Scan.number? read = some token) {rest : List Char}
    (delimited : Delimited rest) : scan (.inNumber read) rest = (scan .blank rest).map ([token] ++ ·) := by
  cases rest with
  | nil =>
    change (Scan.number? read).map ([·]) = _
    rw [ended]
    rfl
  | cons c rest =>
    have other : ¬Scan.isNumberChar c = true := by simp [delimited c rfl]
    have stepped : Scan.step (.inNumber read) c = (Scan.start c).map fun r => (token :: r.1, r.2) := by
      rw [Scan.step, if_neg other, Scan.endWord, ended]
      cases Scan.start c <;> rfl
    rw [scan, stepped, scan]
    change _ = ((Scan.start c).bind _).map _
    cases Scan.start c with
    | none => rfl
    | some r =>
      change (scan r.2 rest).map _ = ((scan r.2 rest).map _).map _
      rw [Option.map_map]
      rfl

theorem step_beginNumber {c : Char} (begins : (c.isDigit || c == '-') = true) :
    Scan.step .blank c = some ([], .inNumber [c]) := by
  have notBlank : Scan.isBlank c = false := by
    by_contra blank
    simp only [Scan.isBlank, Bool.not_eq_false, Bool.or_eq_true, beq_iff_eq] at blank
    rcases blank with ((rfl | rfl) | rfl) | rfl <;> revert begins <;> decide
  have noMark : Scan.mark? c = none := by
    unfold Scan.mark?
    split
    case h_7 => rfl
    all_goals exact absurd begins (by decide)
  have noQuote : c ≠ '"' := by
    rintro rfl
    revert begins
    decide
  change Scan.start c = _
  unfold Scan.start
  rw [notBlank, noMark, if_neg noQuote, begins]
  rfl

theorem isNumberChar_of_isDigit {c : Char} (digit : c.isDigit = true) : Scan.isNumberChar c = true := by
  simp [Scan.isNumberChar, digit]

theorem toList_toString_int (value : Int) :
    ∃ c others, (toString value).toList = c :: others ∧ (c.isDigit || c == '-') = true ∧
      ∀ d ∈ others, d.isDigit = true := by
  have digits (n : Nat) : ∀ c ∈ Nat.toDigits 10 n, c.isDigit = true :=
    fun c member => Nat.isDigit_of_mem_toDigits (by decide) (by decide) member
  rw [Int.toString_eq_repr, Int.repr_eq_if]
  split
  · obtain ⟨c, others, split⟩ := List.exists_cons_of_ne_nil (Nat.toDigits_ne_nil (n := value.toNat) (b := 10))
    have all := digits value.toNat
    rw [split, List.forall_mem_cons] at all
    exact ⟨c, others, Nat.toList_repr.trans split, by simp [all.1], all.2⟩
  · refine ⟨'-', Nat.toDigits 10 (-value).toNat, ?_, by decide, digits _⟩
    rw [String.toList_append, Nat.toList_repr]
    rfl

theorem spells_number (value : Int) : Spells (toString value).toList [.number value 0] := by
  intro rest delimited
  have ended := number?_toString value
  obtain ⟨c, others, split, begins, digits⟩ := toList_toString_int value
  have number : ∀ d ∈ others, Scan.isNumberChar d = true := fun d member => isNumberChar_of_isDigit (digits d member)
  rw [split] at ended ⊢
  rw [List.cons_append, scan_cons_inside (step_beginNumber begins), scan_inNumber number]
  exact scan_endNumber ended delimited

end Number

section Layout

open Document

theorem spells_blanks {text : List Char} (blank : ∀ c ∈ text, Scan.isBlank c = true) : SpellsFirmly text [] := by
  intro rest
  rw [show ((scan .blank rest).map ([] ++ ·)) = scan .blank rest from Option.map_id_apply]
  induction text with
  | nil => rfl
  | cons c text ih =>
    obtain ⟨first, others⟩ := List.forall_mem_cons.1 blank
    have passed : Scan.step .blank c = some ([], .blank) := by
      change Scan.start c = _
      rw [Scan.start, if_pos first]
    rw [List.cons_append, scan_cons_inside passed, ih others]

theorem spells_mark {c : Char} {token : Token} (marks : Scan.mark? c = some token) (other : Scan.isBlank c = false) :
    SpellsFirmly [c] [token] := by
  intro rest
  have stepped : Scan.step .blank c = some ([token], .blank) := by
    change Scan.start c = _
    rw [Scan.start, if_neg (by simp [other]), marks]
  exact scan_cons stepped rest

theorem spells_newline (level : Nat) : SpellsFirmly (newline level) [] := by
  refine spells_blanks (List.forall_mem_cons.2 ⟨rfl, ?_⟩)
  intro c member
  rw [List.eq_of_mem_replicate member]
  rfl

theorem delimited_newline (level : Nat) (rest : List Char) : Delimited (newline level ++ rest) :=
  delimited_cons rfl _

def joined : List (List Token) → List Token
  | [] => []
  | first :: rest => first ++ rest.flatMap (.comma :: ·)

theorem spells_others {items : List (List Char)} {tokens : List (List Token)}
    (each : List.Forall₂ Spells items tokens) (level : Nat) {closing : Char} {close : Token}
    (closes : SpellsFirmly [closing] [close]) :
    SpellsFirmly (items.flatMap (fun item => ',' :: newline (level + 1) ++ item) ++ newline level ++ [closing])
        (tokens.flatMap (.comma :: ·) ++ [close]) ∧
      ∀ rest, Delimited (items.flatMap (fun item => ',' :: newline (level + 1) ++ item) ++ newline level ++
        [closing] ++ rest) := by
  induction each with
  | nil =>
    refine ⟨(spells_newline level).append closes, fun rest => ?_⟩
    rw [List.flatMap_nil, List.nil_append, List.append_assoc]
    exact delimited_newline level _
  | @cons item words items tokens first others ih =>
    obtain ⟨spelled, breaks⟩ := ih
    have comma : SpellsFirmly [','] [.comma] := spells_mark rfl rfl
    have whole := (comma.append (spells_newline (level + 1))).append (first.append_firmly spelled breaks)
    constructor
    · simpa using whole
    · intro rest
      exact delimited_cons rfl _

/-- Whatever stands between two brackets is read as the items and the commas between them. -/
theorem spells_enclosed {items : List (List Char)} {tokens : List (List Token)}
    (each : List.Forall₂ Spells items tokens) (level : Nat) {opening closing : Char} {opener closer : Token}
    (opens : SpellsFirmly [opening] [opener]) (closes : SpellsFirmly [closing] [closer]) :
    SpellsFirmly (enclosed opening closing level items) (opener :: joined tokens ++ [closer]) := by
  cases each with
  | nil => exact opens.append closes
  | @cons item words items tokens first others =>
    obtain ⟨spelled, breaks⟩ := spells_others others level closes
    have whole := (opens.append (spells_newline (level + 1))).append (first.append_firmly spelled breaks)
    simpa [enclosed, joined] using whole

theorem spells_colon : SpellsFirmly ": ".toList [.colon] := by
  have colon : SpellsFirmly [':'] [.colon] := spells_mark rfl rfl
  have blank : SpellsFirmly [' '] [] := spells_blanks (by simp [Scan.isBlank])
  exact colon.append blank

end Layout

section Documents

open Document

mutual

def tokensOf : Document → List Token
  | .text value => [.text value]
  | .number value => [.number value 0]
  | .list items => .openList :: joined (tokensOfItems items) ++ [.closeList]
  | .fields entries => .openFields :: joined (tokensOfEntries entries) ++ [.closeFields]

def tokensOfItems : List Document → List (List Token)
  | [] => []
  | item :: rest => tokensOf item :: tokensOfItems rest

def tokensOfEntries : List (String × Document) → List (List Token)
  | [] => []
  | (name, value) :: rest => (.text name :: .colon :: tokensOf value) :: tokensOfEntries rest

end

mutual

theorem spells_render (level : Nat) : (d : Document) → Spells (d.render level) (tokensOf d)
  | .text value => by
    rw [render, tokensOf]
    exact (spells_quoted value).spells
  | .number value => by
    rw [render, tokensOf]
    exact spells_number value
  | .list items => by
    rw [render, tokensOf]
    exact (spells_enclosed (spells_renderItems (level + 1) items) level (spells_mark rfl rfl)
      (spells_mark rfl rfl)).spells
  | .fields entries => by
    rw [render, tokensOf]
    exact (spells_enclosed (spells_renderEntries (level + 1) entries) level (spells_mark rfl rfl)
      (spells_mark rfl rfl)).spells

theorem spells_renderItems (level : Nat) :
    (items : List Document) → List.Forall₂ Spells (renderItems level items) (tokensOfItems items)
  | [] => by
    rw [renderItems, tokensOfItems]
    exact .nil
  | item :: rest => by
    rw [renderItems, tokensOfItems]
    exact .cons (spells_render level item) (spells_renderItems level rest)

theorem spells_renderEntries (level : Nat) :
    (entries : List (String × Document)) → List.Forall₂ Spells (renderEntries level entries) (tokensOfEntries entries)
  | [] => by
    rw [renderEntries, tokensOfEntries]
    exact .nil
  | (name, value) :: rest => by
    rw [renderEntries, tokensOfEntries]
    exact .cons (((spells_quoted name).append spells_colon).append_spells (spells_render level value))
      (spells_renderEntries level rest)

end

end Documents

end TypingAudit.Report
