import TypingAudit.Proofs.Json.Values
import TypingAudit.Proofs.Report.Spelling

/-!
Decoding undoes writing: the text of a document is one of JSON, and its value is the document itself, with the same
texts and numbers, items and names in the same order.
-/

namespace TypingAudit.Report

open Json

mutual

def valueOf : Document → Value
  | .text value => .text value
  | .number value => .number value 0
  | .list items => .list (valuesOf items)
  | .fields entries => .fields (namedValuesOf entries)

def valuesOf : List Document → List Value
  | [] => []
  | item :: rest => valueOf item :: valuesOf rest

def namedValuesOf : List (String × Document) → List (String × Value)
  | [] => []
  | (name, value) :: rest => (name, valueOf value) :: namedValuesOf rest

end

section Reading

open Reading

/-- The words are read as the value, whatever levels are open. -/
def ReadsAs (tokens : List Token) (v : Value) : Prop :=
  ∀ levels, tokens.foldlM step (.awaitsValue levels) = some (deliver v levels)

/-- A value does not begin with a closing bracket, so that it may stand first in a list. -/
theorem foldlM_itemOrEnd {tokens : List Token} {v : Value} (reads : ReadsAs tokens v) (levels : List Level) :
    tokens.foldlM step (.itemOrEnd levels) = some (.afterItem [v] levels) := by
  have inside : tokens.foldlM step (.awaitsValue (.list [] :: levels)) = some (.afterItem [v] levels) :=
    reads (.list [] :: levels)
  cases tokens with
  | nil => cases inside
  | cons token tokens =>
    rw [List.foldlM_cons] at inside ⊢
    cases token with
    | closeList => cases inside
    | _ => exact inside

theorem foldlM_afterItem {words : List (List Token)} {values : List Value} (each : List.Forall₂ ReadsAs words values)
    (items : List Value) (levels : List Level) :
    (words.flatMap (Token.comma :: ·) ++ [Token.closeList]).foldlM step (.afterItem items levels) =
      some (deliver (.list (items ++ values)) levels) := by
  induction each generalizing items with
  | nil =>
    rw [List.append_nil]
    rfl
  | @cons tokens v words values first others ih =>
    rw [List.flatMap_cons, List.cons_append, List.cons_append, List.foldlM_cons, List.append_assoc]
    change (tokens ++ _).foldlM step (.awaitsValue (.list items :: levels)) = _
    rw [List.foldlM_append, first]
    change (words.flatMap (Token.comma :: ·) ++ [Token.closeList]).foldlM step (.afterItem (items ++ [v]) levels) = _
    rw [ih, List.append_assoc]
    rfl

theorem readsAs_list {words : List (List Token)} {values : List Value} (each : List.Forall₂ ReadsAs words values) :
    ReadsAs (.openList :: joined words ++ [.closeList]) (.list values) := by
  intro levels
  cases each with
  | nil => rfl
  | @cons tokens v words values first others =>
    rw [List.cons_append, List.foldlM_cons, joined, List.append_assoc]
    change (tokens ++ _).foldlM step (.itemOrEnd levels) = _
    rw [List.foldlM_append, foldlM_itemOrEnd first]
    exact foldlM_afterItem others [v] levels

def ReadsAsEntry (tokens : List Token) (entry : String × Value) : Prop :=
  ∃ words, tokens = .text entry.1 :: .colon :: words ∧ ReadsAs words entry.2

theorem foldlM_awaitsColon {words : List Token} {v : Value} (reads : ReadsAs words v) (name : String)
    (entries : List (String × Value)) (levels : List Level) :
    (.colon :: words).foldlM step (.awaitsColon entries name levels) =
      some (.afterEntry (entries ++ [(name, v)]) levels) :=
  reads (.field entries name :: levels)

theorem foldlM_afterEntry {words : List (List Token)} {more : List (String × Value)}
    (each : List.Forall₂ ReadsAsEntry words more) (entries : List (String × Value)) (levels : List Level) :
    (words.flatMap (Token.comma :: ·) ++ [Token.closeFields]).foldlM step (.afterEntry entries levels) =
      some (deliver (.fields (entries ++ more)) levels) := by
  induction each generalizing entries with
  | nil =>
    rw [List.append_nil]
    rfl
  | @cons tokens entry words more first others ih =>
    obtain ⟨named, rfl, reads⟩ := first
    rw [List.flatMap_cons, List.cons_append, List.cons_append, List.foldlM_cons, List.append_assoc]
    change ((.colon :: named) ++ _).foldlM step (.awaitsColon entries entry.1 levels) = _
    rw [List.foldlM_append, foldlM_awaitsColon reads]
    change (words.flatMap (Token.comma :: ·) ++ [Token.closeFields]).foldlM step
      (.afterEntry (entries ++ [entry]) levels) = _
    rw [ih, List.append_assoc]
    rfl

theorem readsAs_fields {words : List (List Token)} {entries : List (String × Value)}
    (each : List.Forall₂ ReadsAsEntry words entries) :
    ReadsAs (.openFields :: joined words ++ [.closeFields]) (.fields entries) := by
  intro levels
  cases each with
  | nil => rfl
  | @cons tokens entry words entries first others =>
    obtain ⟨named, rfl, reads⟩ := first
    rw [List.cons_append, List.foldlM_cons, joined, List.append_assoc]
    change ((.colon :: named) ++ _).foldlM step (.awaitsColon [] entry.1 levels) = _
    rw [List.foldlM_append, foldlM_awaitsColon reads]
    exact foldlM_afterEntry others [entry] levels

mutual

theorem readsAs_tokensOf : (d : Document) → ReadsAs (tokensOf d) (valueOf d)
  | .text value => by
    rw [tokensOf, valueOf]
    exact fun levels => rfl
  | .number value => by
    rw [tokensOf, valueOf]
    exact fun levels => rfl
  | .list items => by
    rw [tokensOf, valueOf]
    exact readsAs_list (readsAs_items items)
  | .fields entries => by
    rw [tokensOf, valueOf]
    exact readsAs_fields (readsAs_entries entries)

theorem readsAs_items : (items : List Document) → List.Forall₂ ReadsAs (tokensOfItems items) (valuesOf items)
  | [] => by
    rw [tokensOfItems, valuesOf]
    exact .nil
  | item :: rest => by
    rw [tokensOfItems, valuesOf]
    exact .cons (readsAs_tokensOf item) (readsAs_items rest)

theorem readsAs_entries : (entries : List (String × Document)) →
    List.Forall₂ ReadsAsEntry (tokensOfEntries entries) (namedValuesOf entries)
  | [] => by
    rw [tokensOfEntries, namedValuesOf]
    exact .nil
  | (name, value) :: rest => by
    rw [tokensOfEntries, namedValuesOf]
    exact .cons ⟨_, rfl, readsAs_tokensOf value⟩ (readsAs_entries rest)

end

end Reading

end TypingAudit.Report
