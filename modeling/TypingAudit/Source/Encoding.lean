import TypingAudit.Source.Position
import TypingAudit.Text.Identifier

/-!
From the bytes of a source file to its text. Line ends are made uniform first. A byte order mark means
UTF-8; otherwise a comment in the first line, or in the second when the first is blank or a comment, may
name the encoding, and without one the text is UTF-8.

Under UTF-8 the text is decoded piece by piece as it is read, so a byte that cannot be decoded matters
only where a name or a literal holds it. The places of such bytes are kept beside the text.
-/

namespace TypingAudit.Source

open Text

/-- A text and the places at which it stands for an undecodable byte. -/
structure Decoded where
  chars : List Char
  undecodable : List Position
deriving Inhabited

namespace Decoded

def ofChars (chars : List Char) : Decoded := ⟨chars, []⟩

end Decoded

/-- Turns every line end into a line feed: a carriage return counts as one, alone or before a line
feed. What has been passed is kept in reverse. -/
def uniformLinesFrom {α : Type} [BEq α] (feed carriage : α) : List α → List α → List α
  | [], passed => passed.reverse
  | x :: rest, passed =>
    if x == carriage then
      match rest with
      | y :: tail =>
        if y == feed then uniformLinesFrom feed carriage tail (feed :: passed)
        else uniformLinesFrom feed carriage (y :: tail) (feed :: passed)
      | [] => (feed :: passed).reverse
    else uniformLinesFrom feed carriage rest (x :: passed)

def uniformLines {α : Type} [BEq α] (feed carriage : α) (text : List α) : List α :=
  uniformLinesFrom feed carriage text []

def closeLastLine (chars : List Char) : List Char :=
  if chars.getLast? = some '\n' then chars else chars ++ ['\n']

namespace Encoding

inductive Charset where
  | utf8
  | latin1
  | ascii
deriving DecidableEq, Repr

def isContinuation (byte : UInt8) : Bool := 0x80 ≤ byte && byte < 0xC0

def wide (lead : Nat) (bits least : Nat) (tail : List UInt8) : Option Char :=
  if tail.all isContinuation then
    let point := tail.foldl (fun acc byte => acc * 64 + (byte.toNat - 0x80)) (lead - bits)
    if h : point.isValidChar then
      if least ≤ point then some (Char.ofNatAux point h) else none
    else none
  else none

/-- Splits off one character. An undecodable byte gives none. -/
def nextChar : List UInt8 → Option (Option Char × List UInt8)
  | [] => none
  | b₀ :: rest =>
    if b₀ < 0x80 then some (some (Char.ofNat b₀.toNat), rest)
    else
      let found : Option (Char × List UInt8) :=
        if 0xC2 ≤ b₀ && b₀ < 0xE0 then
          match rest with
          | b₁ :: r => (wide b₀.toNat 0xC0 0x80 [b₁]).map (·, r)
          | _ => none
        else if 0xE0 ≤ b₀ && b₀ < 0xF0 then
          match rest with
          | b₁ :: b₂ :: r => (wide b₀.toNat 0xE0 0x800 [b₁, b₂]).map (·, r)
          | _ => none
        else if 0xF0 ≤ b₀ && b₀ < 0xF5 then
          match rest with
          | b₁ :: b₂ :: b₃ :: r => (wide b₀.toNat 0xF0 0x10000 [b₁, b₂, b₃]).map (·, r)
          | _ => none
        else none
      match found with
      | some (c, r) => some (some c, r)
      | none => some (none, rest)

def decodeUtf8From : Nat → Position → List UInt8 → List Char → List Position → Decoded
  | 0, _, _, chars, places => ⟨chars.reverse, places.reverse⟩
  | fuel + 1, pos, bytes, chars, places =>
    match nextChar bytes with
    | none => ⟨chars.reverse, places.reverse⟩
    | some (some c, rest) => decodeUtf8From fuel (pos.advance c) rest (c :: chars) places
    | some (none, rest) =>
      let c := Char.ofNat 0xFFFD
      decodeUtf8From fuel (pos.advance c) rest (c :: chars) (pos :: places)

def decodeUtf8 (bytes : List UInt8) : Decoded := decodeUtf8From bytes.length .start bytes [] []

def decodeLatin1 (bytes : List UInt8) : List Char := bytes.map (fun b => Char.ofNat b.toNat)

def splitLine (bytes : List UInt8) : List UInt8 × List UInt8 :=
  (bytes.takeWhile (· ≠ 10), (bytes.dropWhile (· ≠ 10)).drop 1)

def isIndentByte (byte : UInt8) : Bool := byte == 32 || byte == 9 || byte == 12

def isSpecChar (c : Char) : Bool :=
  isAsciiLetter c || isAsciiDigit c || c == '-' || c == '_' || c == '.'

def specIn : List Char → Option (List Char)
  | [] => none
  | c :: rest =>
    match c :: rest with
    | 'c' :: 'o' :: 'd' :: 'i' :: 'n' :: 'g' :: mark :: tail =>
      if mark == ':' || mark == '=' then
        match (tail.dropWhile (fun c => c == ' ' || c == '\t')).takeWhile isSpecChar with
        | [] => specIn rest
        | word => some word
      else specIn rest
    | _ => specIn rest

def declaredIn (line : List UInt8) : Option (List Char) :=
  match line.dropWhile isIndentByte with
  | 35 :: comment => specIn (decodeLatin1 comment)
  | _ => none

def isBlankOrComment (line : List UInt8) : Bool :=
  match line.dropWhile isIndentByte with
  | [] => true
  | byte :: _ => byte == 35

def declared (bytes : List UInt8) : Option (List Char) :=
  let (first, rest) := splitLine bytes
  match declaredIn first with
  | some word => some word
  | none => if isBlankOrComment first then declaredIn (splitLine rest).1 else none

def foldName (word : List Char) : String :=
  String.ofList (word.map fun c => if c == '_' then '-' else c.toLower)

/-- Whether a name is `base`, or `base` with a hyphenated suffix within its first twelve characters. -/
def names (base : String) (word : List Char) : Bool :=
  let head := (foldName word).toList.take 12
  head == base.toList || (base.toList ++ ['-']).isPrefixOf head

def utf8Names : List String :=
  ["utf-8", "utf8", "u8", "utf", "utf8-ucs2", "utf8-ucs4", "cp65001"]

def latin1Names : List String :=
  ["latin-1", "latin1", "latin", "l1", "iso-8859-1", "iso8859-1", "8859", "cp819", "csisolatin1",
    "ibm819", "iso-8859-1-1987", "iso-ir-100", "iso8859"]

def asciiNames : List String :=
  ["ascii", "us-ascii", "646", "ansi-x3.4-1968", "ansi-x3-4-1968", "ansi-x3.4-1986", "cp367",
    "csascii", "ibm367", "iso646-us", "iso-646.irv-1991", "iso-ir-6", "us"]

def charsetNamed (word : List Char) : Option Charset :=
  let name := foldName word
  if utf8Names.contains name then some .utf8
  else if latin1Names.contains name then some .latin1
  else if asciiNames.contains name then some .ascii
  else none

/-- Whether a name counts as UTF-8 without a look in the list of charsets. -/
def isPlainUtf8 (word : List Char) : Bool := names "utf-8" word

def isPlainLatin1 (word : List Char) : Bool :=
  names "latin-1" word || names "iso-8859-1" word || names "iso-latin-1" word

def decodeAs (charset : Charset) (bytes : List UInt8) : Option Decoded :=
  match charset with
  | .latin1 => some (.ofChars (decodeLatin1 bytes))
  | .ascii => if bytes.all (· < 0x80) then some (.ofChars (decodeLatin1 bytes)) else none
  | .utf8 =>
    let decoded := decodeUtf8 bytes
    if decoded.undecodable.isEmpty then some decoded else none

end Encoding

open Encoding in
/-- The text of a source file; none when its encoding is unknown, contradicts the byte order mark, or
does not fit the bytes. -/
def decode (bytes : List UInt8) : Option Decoded :=
  let bytes := uniformLines 10 13 bytes
  match bytes with
  | 0xEF :: 0xBB :: 0xBF :: marked =>
    match declared marked with
    | none => some (decodeUtf8 marked)
    | some word => if isPlainUtf8 word then some (decodeUtf8 marked) else none
  | _ =>
    match declared bytes with
    | none => some (decodeUtf8 bytes)
    | some word =>
      if isPlainUtf8 word then some (decodeUtf8 bytes)
      else if isPlainLatin1 word then decodeAs .latin1 bytes
      else (charsetNamed word).bind (decodeAs · bytes)

end TypingAudit.Source
