import TypingAudit.Proofs.Json.Tokens

/-!
The value of a JSON text. The words are taken one after another, with the lists and fields that are still open kept
aside; each word must be one that may stand where it stands, and at the end one value must be complete. Names and items
keep their order.
-/

namespace TypingAudit.Json

inductive Value where
  | null
  | truth (value : Bool)
  /-- The mantissa times a power of ten. -/
  | number (mantissa exponent : Int)
  | text (value : String)
  | list (items : List Value)
  | fields (entries : List (String × Value))

/-- A list, or fields with the name whose value is being read, and what stands in them so far. -/
inductive Level where
  | list (items : List Value)
  | field (entries : List (String × Value)) (name : String)

/-- What may come next, and the levels that are open. -/
inductive Reading where
  | awaitsValue (levels : List Level)
  | itemOrEnd (levels : List Level)
  | nameOrEnd (levels : List Level)
  | awaitsName (entries : List (String × Value)) (levels : List Level)
  | awaitsColon (entries : List (String × Value)) (name : String) (levels : List Level)
  | afterItem (items : List Value) (levels : List Level)
  | afterEntry (entries : List (String × Value)) (levels : List Level)
  | complete (value : Value)

namespace Reading

def deliver (v : Value) : List Level → Reading
  | [] => .complete v
  | .list items :: levels => .afterItem (items ++ [v]) levels
  | .field entries name :: levels => .afterEntry (entries ++ [(name, v)]) levels

def beginValue (levels : List Level) : Token → Option Reading
  | .openList => some (.itemOrEnd levels)
  | .openFields => some (.nameOrEnd levels)
  | .text value => some (deliver (.text value) levels)
  | .number mantissa exponent => some (deliver (.number mantissa exponent) levels)
  | .truth value => some (deliver (.truth value) levels)
  | .null => some (deliver .null levels)
  | _ => none

def step : Reading → Token → Option Reading
  | .awaitsValue levels, token => beginValue levels token
  | .itemOrEnd levels, .closeList => some (deliver (.list []) levels)
  | .itemOrEnd levels, token => beginValue (.list [] :: levels) token
  | .nameOrEnd levels, .closeFields => some (deliver (.fields []) levels)
  | .nameOrEnd levels, .text name => some (.awaitsColon [] name levels)
  | .awaitsName entries levels, .text name => some (.awaitsColon entries name levels)
  | .awaitsColon entries name levels, .colon => some (.awaitsValue (.field entries name :: levels))
  | .afterItem items levels, .comma => some (.awaitsValue (.list items :: levels))
  | .afterItem items levels, .closeList => some (deliver (.list items) levels)
  | .afterEntry entries levels, .comma => some (.awaitsName entries levels)
  | .afterEntry entries levels, .closeFields => some (deliver (.fields entries) levels)
  | _, _ => none

end Reading

def parse (tokens : List Token) : Option Value :=
  match tokens.foldlM Reading.step (.awaitsValue []) with
  | some (.complete v) => some v
  | _ => none

/-- The value of a text, if the text is one of JSON. -/
def decode (text : String) : Option Value := (scan .blank text.toList).bind parse

example : decode " [1.50,-2e3,true,\"\\uD83D\\ude00\\/\"] " =
    some (.list [.number 150 (-2), .number (-2) 3, .truth true, .text "😀/"]) := by cbv

example : decode "[01]" = none ∧ decode "[1,]" = none ∧ decode "\"\\ud83d\"" = none := by cbv

namespace Value

def field? : Value → String → Option Value
  | .fields entries, name => entries.lookup name
  | _, _ => none

def text? : Value → Option String
  | .text value => some value
  | _ => none

def integer? : Value → Option Int
  | .number mantissa 0 => some mantissa
  | _ => none

def natural? (v : Value) : Option Nat := v.integer?.bind Int.toNat?

end Value

end TypingAudit.Json
