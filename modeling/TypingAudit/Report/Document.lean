/-!
Documents of texts, whole numbers, lists and named fields, written over several lines with two blanks for
each level. Only ASCII is written: any other character becomes one or two units of four hexadecimal digits.
-/

namespace TypingAudit.Report

inductive Document where
  | text (value : String)
  | number (value : Int)
  | list (items : List Document)
  | fields (entries : List (String × Document))

namespace Document

def hexDigit (n : Nat) : Char := "0123456789abcdef".toList.getD (n % 16) '0'

def unitEscape (n : Nat) : List Char :=
  ['\\', 'u', hexDigit (n / 4096), hexDigit (n / 256), hexDigit (n / 16), hexDigit n]

/-- The units of a character: one, or two above the first plane. -/
def units (c : Char) : List Nat :=
  if c.toNat < 0x10000 then [c.toNat]
  else [0xD800 + (c.toNat - 0x10000) / 0x400, 0xDC00 + (c.toNat - 0x10000) % 0x400]

def escapeChar (c : Char) : List Char :=
  if c = '"' then ['\\', '"']
  else if c = '\\' then ['\\', '\\']
  else if c = '\n' then ['\\', 'n']
  else if c = '\r' then ['\\', 'r']
  else if c = '\t' then ['\\', 't']
  else if c = '\x0c' then ['\\', 'f']
  else if c = '\x08' then ['\\', 'b']
  else if ' ' ≤ c ∧ c ≤ '~' then [c]
  else (units c).flatMap unitEscape

def quoted (s : String) : List Char := '"' :: s.toList.flatMap escapeChar ++ ['"']

def newline (level : Nat) : List Char := '\n' :: List.replicate (2 * level) ' '

def enclosed (opening closing : Char) (level : Nat) : List (List Char) → List Char
  | [] => [opening, closing]
  | first :: rest =>
    opening :: newline (level + 1) ++ first
      ++ rest.flatMap (fun item => ',' :: newline (level + 1) ++ item)
      ++ newline level ++ [closing]

mutual

def render (level : Nat) : Document → List Char
  | .text value => quoted value
  | .number value => (toString value).toList
  | .list items => enclosed '[' ']' level (renderItems (level + 1) items)
  | .fields entries => enclosed '\x7b' '\x7d' level (renderEntries (level + 1) entries)

def renderItems (level : Nat) : List Document → List (List Char)
  | [] => []
  | item :: rest => render level item :: renderItems level rest

def renderEntries (level : Nat) : List (String × Document) → List (List Char)
  | [] => []
  | (name, value) :: rest => (quoted name ++ ": ".toList ++ render level value) :: renderEntries level rest

end

mutual

def numbers : Document → List Int
  | .text _ => []
  | .number value => [value]
  | .list items => itemNumbers items
  | .fields entries => entryNumbers entries

def itemNumbers : List Document → List Int
  | [] => []
  | item :: rest => item.numbers ++ itemNumbers rest

def entryNumbers : List (String × Document) → List Int
  | [] => []
  | (_, value) :: rest => value.numbers ++ entryNumbers rest

end

end Document

end TypingAudit.Report
