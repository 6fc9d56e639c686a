import Mathlib.Data.List.Basic
import Mathlib.Data.List.TakeWhile
import TypingAudit.Text.Identifier
import TypingAudit.Text.Quoted

/-!
The characters of identifiers. None of them is blank, a quote, a full stop or a backslash, and all are printable, so
trimming leaves an identifier alone and quoting writes it as it is. For the characters beyond ASCII this is a fact about
three tables of turning points, which are walked side by side.
-/

namespace TypingAudit.Text

namespace Ranges

/-- Walks the second set's turning points up to the first set's next one, and goes on with `next` from there. The walk
fails where both sets have a part in common: `inside` and `beside` tell on which side of each it is. -/
def apartUntil (turn : Nat) (inside : Bool) (next : Bool → Ranges → Bool) : Bool → Ranges → Bool
  | beside, [] => !(inside && beside) && next beside []
  | beside, other :: others =>
    !(inside && beside) &&
      if other < turn then apartUntil turn inside next (!beside) others
      else if other = turn then next (!beside) others
      else next beside (other :: others)

def apart : Ranges → Bool → Bool → Ranges → Bool
  | [], inside, _, _ => !inside
  | turn :: turns, inside, beside, others => apartUntil turn inside (apart turns (!inside)) beside others

section Walk

variable {turn point : Nat} {turns others : Ranges} {inside beside : Bool}

theorem xor_has_cons_of_lt (below : point < turn) : (inside ^^ Ranges.has (turn :: turns) point) = inside := by
  rw [Ranges.has, if_pos below, Bool.xor_false]

theorem xor_has_cons_of_le (reached : turn ≤ point) :
    (inside ^^ Ranges.has (turn :: turns) point) = (!inside ^^ Ranges.has turns point) := by
  rw [Ranges.has, if_neg (Nat.not_lt.2 reached), Bool.xor_not, Bool.not_xor]

theorem apartUntil_sound {next : Bool → Ranges → Bool}
    (goesOn : ∀ {beside others}, next beside others = true → turn ≤ point →
      ((!inside ^^ Ranges.has turns point) && (beside ^^ others.has point)) = false)
    (walked : apartUntil turn inside next beside others = true) :
    ((inside ^^ Ranges.has (turn :: turns) point) && (beside ^^ others.has point)) = false := by
  induction others generalizing beside with
  | nil =>
    obtain ⟨separate, rest⟩ := Bool.and_eq_true_iff.1 walked
    by_cases below : point < turn
    · rw [xor_has_cons_of_lt below, Ranges.has, Bool.xor_false]
      exact (Bool.not_eq_true' _).mp separate
    · have reached := Nat.not_lt.1 below
      rw [xor_has_cons_of_le reached]
      exact goesOn rest reached
  | cons other others ih =>
    obtain ⟨separate, rest⟩ := Bool.and_eq_true_iff.1 walked
    have apartHere : (inside && beside) = false := (Bool.not_eq_true' _).mp separate
    split at rest
    · rename_i before
      by_cases passed : other ≤ point
      · rw [xor_has_cons_of_le passed]
        exact ih rest
      · have below := Nat.not_le.1 passed
        rw [xor_has_cons_of_lt below, xor_has_cons_of_lt (Nat.lt_trans below before)]
        exact apartHere
    · rename_i notBefore
      by_cases reached : turn ≤ point
      · rw [xor_has_cons_of_le reached]
        split at rest
        · rename_i same
          have passed : other ≤ point := Nat.le_trans (Nat.le_of_eq same) reached
          rw [xor_has_cons_of_le passed]
          exact goesOn rest reached
        · exact goesOn rest reached
      · have below := Nat.not_le.1 reached
        rw [xor_has_cons_of_lt below, xor_has_cons_of_lt (Nat.lt_of_lt_of_le below (Nat.not_lt.1 notBefore))]
        exact apartHere

theorem apart_sound (point : Nat) (walked : apart turns inside beside others = true) :
    ((inside ^^ turns.has point) && (beside ^^ others.has point)) = false := by
  induction turns generalizing inside beside others with
  | nil =>
    have outside : inside = false := (Bool.not_eq_true' _).mp walked
    rw [outside]
    rfl
  | cons turn turns ih => exact apartUntil_sound (fun next _ => ih next) walked

end Walk

/-- What is in one of two sets that are apart is not in the other one. -/
theorem not_has_of_apart {turns others : Ranges} {point : Nat} (walked : apart turns false false others = true)
    (member : turns.has point = true) : others.has point = false := by
  have sound := apart_sound point walked
  simpa [member] using sound

theorem has_of_apart_complement {turns others : Ranges} {point : Nat} (walked : apart turns false true others = true)
    (member : turns.has point = true) : others.has point = true := by
  have sound := apart_sound point walked
  simpa [member] using sound

end Ranges

section Characters

/-- Characters that trimming does not remove and that quoting writes as they are. -/
def isInert (c : Char) : Bool := c != '\'' && c != '"' && c != '\\' && isPrintable c.toNat && !isBlank c.toNat

theorem forall_ascii {p : Char → Bool} (each : (List.range 128).all (fun n => p (Char.ofNat n)) = true) {c : Char}
    (ascii : c.toNat < 128) : p c = true := by
  have here := List.all_eq_true.1 each c.toNat (List.mem_range.2 ascii)
  rwa [Char.ofNat_toNat] at here

theorem isNameContinue_of_isNameStart {c : Char} (starts : isNameStart c = true) : isNameContinue c = true := by
  unfold isNameStart at starts
  unfold isNameContinue
  split at starts
  · rename_i ascii
    rw [if_pos ascii]
    grind
  · rename_i beyond
    rw [if_neg beyond]
    exact Ranges.has_of_apart_complement (by decide +kernel) starts

theorem inert_of_isNameContinue {c : Char} (continues : isNameContinue c = true) : (isInert c && c != '.') = true := by
  by_cases ascii : c.toNat < 128
  · have each := forall_ascii (p := fun c => !isNameContinue c || (isInert c && c != '.')) (by decide +kernel) ascii
    simpa [continues] using each
  · rw [isNameContinue, if_neg ascii] at continues
    have printable : isPrintable c.toNat = true := by
      have shown : unprintableRanges.has c.toNat = false := Ranges.not_has_of_apart (by decide +kernel) continues
      rw [isPrintable, if_neg (by omega), shown]
      rfl
    have unblank : isBlank c.toNat = false := Ranges.not_has_of_apart (by decide +kernel) continues
    have other : ∀ {d : Char}, d.toNat < 128 → c ≠ d := by
      rintro d below rfl
      exact ascii below
    simp [isInert, printable, unblank, other]

def isIdentifier (text : String) : Bool :=
  match text.toList with
  | first :: rest => isNameStart first && rest.all isNameContinue
  | [] => false

theorem inert_of_isIdentifier {text : String} (named : isIdentifier text = true) {c : Char} (member : c ∈ text.toList) :
    isInert c = true ∧ c ≠ '.' := by
  unfold isIdentifier at named
  split at named
  · rename_i first rest chars
    obtain ⟨starts, continues⟩ := Bool.and_eq_true_iff.1 named
    have continued : isNameContinue c = true := by
      rw [chars] at member
      rcases List.mem_cons.1 member with rfl | later
      · exact isNameContinue_of_isNameStart starts
      · exact List.all_eq_true.1 continues c later
    simpa using inert_of_isNameContinue continued
  · cases named

theorem ne_empty_of_isIdentifier {text : String} (named : isIdentifier text = true) : text ≠ "" := by
  rintro rfl
  cases named

end Characters

section Edges

variable {drop : Char → Bool} {front text back : List Char}

theorem dropWhile_of_head (kept : ∀ c ∈ text.head?, drop c = false) : text.dropWhile drop = text := by
  cases text with
  | nil => rfl
  | cons c text =>
    have here : drop c = false := kept c rfl
    rw [List.dropWhile_cons, here, if_neg Bool.false_ne_true]

theorem trimBoth_enclosed (frontDropped : ∀ c ∈ front, drop c = true) (backDropped : ∀ c ∈ back, drop c = true)
    (first : ∀ c ∈ text.head?, drop c = false) (last : ∀ c ∈ text.getLast?, drop c = false) :
    trimBoth drop (front ++ (text ++ back)) = text := by
  have backwards : ∀ c ∈ back.reverse, drop c = true := fun c member => backDropped c (List.mem_reverse.1 member)
  rw [trimBoth, List.dropWhile_append_of_pos frontDropped]
  cases text with
  | nil =>
    rw [List.nil_append, List.dropWhile_eq_nil_iff.2 backDropped]
    rfl
  | cons c text =>
    have kept : ((c :: text) ++ back).dropWhile drop = (c :: text) ++ back := dropWhile_of_head first
    rw [kept, List.reverse_append, List.dropWhile_append_of_pos backwards, dropWhile_of_head, List.reverse_reverse]
    rwa [List.head?_reverse]

theorem trimBoth_eq_self (kept : ∀ c ∈ text, drop c = false) : trimBoth drop text = text := by
  have none : ∀ c ∈ ([] : List Char), drop c = true := List.forall_mem_nil _
  simpa using trimBoth_enclosed none none (fun c first => kept c (List.mem_of_head? first))
    (fun c last => kept c (List.mem_of_getLast? last))

end Edges

section Quoting

theorem ne_quote_of_isInert {c : Char} (inert : isInert c = true) : c ≠ '\'' ∧ c ≠ '"' := by
  simp only [isInert, Bool.and_eq_true, bne_iff_ne] at inert
  exact ⟨inert.1.1.1.1, inert.1.1.1.2⟩

theorem unblank_of_isInert {c : Char} (inert : isInert c = true) : isBlank c.toNat = false := by
  simp only [isInert, Bool.and_eq_true, Bool.not_eq_true'] at inert
  exact inert.2

theorem plainPoint_of_isInert {c : Char} (inert : isInert c = true) : plainPoint '\'' c.toNat = [c] := by
  simp only [isInert, Bool.and_eq_true, bne_iff_ne] at inert
  obtain ⟨⟨⟨⟨unquoted, -⟩, unescaped⟩, printable⟩, -⟩ := inert
  have noQuote : c.toNat ≠ '\''.toNat := mt Char.toNat_inj.1 unquoted
  have noBackslash : c.toNat ≠ 92 := mt (Char.toNat_inj (d := '\\')).1 unescaped
  have plain : ¬(decide (c.toNat = 92) || !isPrintable c.toNat) = true := by simp [noBackslash, printable]
  rw [plainPoint, if_neg noQuote, if_neg plain, Char.ofNat_toNat]

variable {text : String} (inert : ∀ c ∈ text.toList, isInert c = true)
include inert

theorem quoteFor_of_inert : quoteFor (CodePoints.ofString text).points = '\'' := by
  have absent : (CodePoints.ofString text).points.contains '\''.toNat = false := by
    rw [Bool.eq_false_iff, Ne, List.contains_iff_mem]
    intro member
    obtain ⟨c, inText, same⟩ := List.mem_map.1 member
    exact (ne_quote_of_isInert (inert c inText)).1 (Char.toNat_inj.1 same)
  rw [quoteFor, absent]
  rfl

/-- A text without characters to escape stands between single quotes as it is. -/
theorem quoted_of_inert : (CodePoints.ofString text).quoted = "'" ++ text ++ "'" := by
  have inner : (CodePoints.ofString text).quotedInner = text.toList := by
    rw [CodePoints.quotedInner, quoteFor_of_inert inert, CodePoints.ofString, CodePoints.ofChars, List.flatMap_map]
    calc
      text.toList.flatMap (fun c => plainPoint '\'' c.toNat) = text.toList.flatMap (fun c => [c]) :=
        List.flatMap_congr fun c member => plainPoint_of_isInert (inert c member)
      _ = text.toList := List.flatMap_singleton' _
  rw [CodePoints.quoted, inner, quoteFor_of_inert inert]
  apply String.toList_injective
  simp

end Quoting

end TypingAudit.Text
