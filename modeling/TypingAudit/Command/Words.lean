import TypingAudit.Command.Options
import TypingAudit.Text.Digit

/-!
The words of a command line, told apart. A long option may be cut short as long as only one fits, negative
numbers and words with a blank are no options unless they are spelled like one, and after a first `--` nothing
is an option any more.
-/

namespace TypingAudit.Command

open Text

inductive Word where
  /-- A word that stands for itself. -/
  | plain (text : String)
  /-- The first `--`. -/
  | separator
  /-- An option, with the value that stands in the same word. -/
  | option (flag : Flag) (spelling : String) (attached : Option String)
  /-- A word that looks like an option but is none. -/
  | unknown (text : String)
deriving DecidableEq, Repr

namespace Word

def text : Word → String
  | .plain text => text
  | .separator => "--"
  | .option _ spelling _ => spelling
  | .unknown text => text

end Word

def cutAtEquals (word : List Char) : Option (String × String) :=
  match word.dropWhile (· != '=') with
  | [] => none
  | _ :: value => some (String.ofList (word.takeWhile (· != '=')), String.ofList value)

def isDigit (c : Char) : Bool := (digitValue? c).isSome

/-- Whether a word is a negative number, whole or with a point. One line end after it does not count. -/
def isNegativeNumber (word : List Char) : Bool :=
  let text := if word.getLast? = some '\n' then word.dropLast else word
  match text with
  | '-' :: number =>
    match number.dropWhile isDigit with
    | [] => !number.isEmpty
    | '.' :: fraction => !fraction.isEmpty && fraction.all isDigit
    | _ => false
  | _ => false

/-- The options that a word which spells none of them exactly may mean. -/
def candidates (word : List Char) : List (Flag × String × Option String) :=
  if "--".toList.isPrefixOf word then
    let cut := (cutAtEquals word).map fun c => (c.1.toList, c.2)
    let start := (cut.map Prod.fst).getD word
    (Flag.spellings.filter fun s => start.isPrefixOf s.1.toList).map fun s =>
      (s.2, s.1, cut.map Prod.snd)
  else
    Flag.spellings.filterMap fun s =>
      if s.1.toList = word.take 2 then some (s.2, s.1, some (String.ofList (word.drop 2)))
      else if word.isPrefixOf s.1.toList then some (s.2, s.1, none)
      else none

def readWord (word : String) : Except UsageError Word :=
  let chars := word.toList
  if chars.head? ≠ some '-' then .ok (.plain word)
  else
    match Flag.spellings.lookup word with
    | some flag => .ok (.option flag word none)
    | none =>
      if chars.length = 1 then .ok (.plain word)
      else
        match (cutAtEquals chars).bind fun c => (Flag.spellings.lookup c.1).map fun f => (f, c) with
        | some (flag, spelling, value) => .ok (.option flag spelling (some value))
        | none =>
          match candidates chars with
          | [(flag, spelling, attached)] => .ok (.option flag spelling attached)
          | [] =>
            if isNegativeNumber chars || chars.contains ' ' then .ok (.plain word)
            else .ok (.unknown word)
          | several => .error (.ambiguous word (several.map fun c => c.2.1))

def readWords : List String → Except UsageError (List Word)
  | [] => .ok []
  | word :: rest =>
    if word = "--" then .ok (.separator :: rest.map .plain)
    else do
      let first ← readWord word
      return first :: (← readWords rest)

end TypingAudit.Command
