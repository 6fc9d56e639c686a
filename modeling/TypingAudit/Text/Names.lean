import TypingAudit.Text.Composition
import TypingAudit.Text.Names.Aliases
import TypingAudit.Text.Names.Alphabets
import TypingAudit.Text.Names.Ancient
import TypingAudit.Text.Names.Eastern
import TypingAudit.Text.Names.Hieroglyphs
import TypingAudit.Text.Names.Pictures
import TypingAudit.Text.Names.Reading
import TypingAudit.Text.Names.Syllabics
import TypingAudit.Text.Names.Symbols

/-!
Characters by their name in the Unicode standard, version 14. Small letters in a name count as capitals, but
not in the names of Korean syllables and of unified ideographs, which follow a rule.
-/

namespace TypingAudit.Text

namespace Names

def leads : List String :=
  ["G", "GG", "N", "D", "DD", "R", "M", "B", "BB", "S", "SS", "", "J", "JJ", "C", "K", "T", "P", "H"]

def vowels : List String :=
  ["A", "AE", "YA", "YAE", "EO", "E", "YEO", "YE", "O", "WA", "WAE", "OE", "YO", "U", "WEO", "WE",
    "WI", "YU", "EU", "YI", "I"]

def trails : List String :=
  ["", "G", "GG", "GS", "N", "NJ", "NH", "D", "L", "LG", "LM", "LB", "LS", "LT", "LP", "LH", "M",
    "B", "BS", "S", "SS", "NG", "J", "C", "K", "T", "P", "H"]

/-- The place of the longest spelling that a text starts with, and the rest of the text. -/
def longest? (spellings : List String) (text : List Char) : Option (Nat × List Char) :=
  let fitting := spellings.zipIdx.filter fun s => s.1.toList.isPrefixOf text
  let best := fitting.foldl (fun best s =>
    match best with
    | none => some s
    | some b => if b.1.length < s.1.length then some s else some b) none
  best.map fun s => (s.2, text.drop s.1.length)

def syllable? (spelling : List Char) : Option Nat := do
  let (lead, spelling) ← longest? leads spelling
  let (vowel, spelling) ← longest? vowels spelling
  let (trail, spelling) ← longest? trails spelling
  if spelling.isEmpty then
    some (Hangul.firstSyllable + (lead * Hangul.vowels + vowel) * Hangul.trails + trail)
  else none

def hexadecimal? (figures : List Char) : Option Nat :=
  figures.foldlM (fun n c =>
    if c.isDigit then some (16 * n + (c.toNat - 48))
    else if 'A' ≤ c ∧ c ≤ 'F' then some (16 * n + (c.toNat - 55))
    else none) 0

def within (ranges : List (Nat × Nat)) (point : Nat) : Bool :=
  ranges.any fun range => range.1 ≤ point && point ≤ range.2

def unifiedIdeographs : List (Nat × Nat) :=
  [(0x3400, 0x4dbf), (0x4e00, 0x9fff), (0x20000, 0x2a6df), (0x2a700, 0x2b738), (0x2b740, 0x2b81d),
    (0x2b820, 0x2cea1), (0x2ceb0, 0x2ebe0), (0x30000, 0x3134a)]

def ideograph? (figures : List Char) : Option Nat := do
  let point ← hexadecimal? figures
  if (figures.length = 4 ∨ figures.length = 5) ∧ within unifiedIdeographs point then some point
  else none

/-- Names that end with the code point, with the ranges they are for. -/
def numbered : List (String × List (Nat × Nat)) :=
  [("CJK COMPATIBILITY IDEOGRAPH-", [(0xf900, 0xfa6d), (0xfa70, 0xfad9), (0x2f800, 0x2fa1d)]),
    ("KHITAN SMALL SCRIPT CHARACTER-", [(0x18b00, 0x18cd5)]),
    ("NUSHU CHARACTER-", [(0x1b170, 0x1b2fb)])]

def after? (opening : String) (text : List Char) : Option (List Char) :=
  if opening.toList.isPrefixOf text then some (text.drop opening.length) else none

def numbered? (name : List Char) : Option Nat :=
  numbered.findSome? fun kind => do
    let figures ← after? kind.1 name
    let point ← hexadecimal? figures
    if figures.head? ≠ some '0' ∧ within kind.2 point then some point else none

def selector? (name : List Char) : Option Nat := do
  let figures ← after? "VS" name
  if figures.isEmpty ∨ figures.head? = some '0' ∨ !figures.all Char.isDigit then none
  else
    let number := figures.foldl (fun n c => 10 * n + (c.toNat - 48)) 0
    if number ≤ 16 then some (0xfe00 + number - 1)
    else if number ≤ 256 then some (0xe0100 + number - 17)
    else none

def alias? (name : List Char) : Option Nat :=
  (pieces aliases).findSome? fun piece => do
    if (piece.dropWhile (· != ' ')).drop 1 = name then
      hexadecimal? ((piece.takeWhile (· != ' ')).map Char.toUpper)
    else none

def listed? (name : List Char) : Option Nat :=
  let words := splitWhere (· == ' ') name
  [alphabetNames, symbolNames, syllabicNames, easternNames, ancientNames, hieroglyphNames,
    pictureNames].findSome? fun lines => find? lines words

end Names

open Names in
def charNamed (name : List Char) : Option Nat :=
  match after? "HANGUL SYLLABLE " name, after? "CJK UNIFIED IDEOGRAPH-" name with
  | some spelling, _ => syllable? spelling
  | _, some figures => ideograph? figures
  | none, none =>
    let name := name.map Char.toUpper
    listed? name <|> numbered? name <|> selector? name <|> alias? name

end TypingAudit.Text
