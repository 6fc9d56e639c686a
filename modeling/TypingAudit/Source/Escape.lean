import TypingAudit.Source.Number

/-!
Escapes in string and bytes literals. An unknown escape stands for itself, backslash included; a
hexadecimal escape that lacks digits, or one beyond the last code point, is refused.
-/

namespace TypingAudit.Source.Escape

open Number (hexValue? digitIn)
open Text (CodePoints)

def single? : Char → Option Nat
  | '\\' => some 92
  | '\'' => some 39
  | '"' => some 34
  | 'a' => some 7
  | 'b' => some 8
  | 't' => some 9
  | 'n' => some 10
  | 'v' => some 11
  | 'f' => some 12
  | 'r' => some 13
  | _ => none

def hexDigits : Nat → List Char → Nat → Option Nat
  | 0, _, acc => some acc
  | _ + 1, [], _ => none
  | count + 1, c :: rest, acc => do
    let d ← hexValue? c
    hexDigits count rest (acc * 16 + d)

def octal? (c : Char) : Option Nat := digitIn 8 c

/-- What an escape stands for, given the text after its backslash: its code points, and how many
characters it takes. `wide` admits the escapes that only text literals have. -/
def meaning (named : List Char → Option Nat) (wide : Bool) : List Char → Option (List Nat × Nat)
  | [] => some ([92], 0)
  | '\n' :: _ => some ([], 1)
  | c :: rest =>
    match single? c with
    | some point => some ([point], 1)
    | none =>
      match octal? c with
      | some a =>
        match rest with
        | d :: tail =>
          match octal? d with
          | some b =>
            match tail with
            | e :: _ =>
              match octal? e with
              | some f => some ([(a * 8 + b) * 8 + f], 3)
              | none => some ([a * 8 + b], 2)
            | [] => some ([a * 8 + b], 2)
          | none => some ([a], 1)
        | [] => some ([a], 1)
      | none =>
        if c == 'x' then (hexDigits 2 rest 0).map fun n => ([n], 3)
        else if !wide then some ([92, c.toNat], 1)
        else if c == 'u' then (hexDigits 4 rest 0).map fun n => ([n], 5)
        else if c == 'U' then
          (hexDigits 8 rest 0).bind fun n => if n ≤ 0x10FFFF then some ([n], 9) else none
        else if c == 'N' then
          match rest with
          | '\x7b' :: tail =>
            let name := tail.takeWhile (· ≠ '\x7d')
            if name.length < tail.length then
              (named name).map fun n => ([n], name.length + 3)
            else none
          | _ => none
        else some ([92, c.toNat], 1)

/-- Decodes a literal's body; `skip` counts the characters of an escape still to pass. -/
def decodeFrom (named : List Char → Option Nat) (wide : Bool) : Nat → List Char → Option (List Nat)
  | _, [] => some []
  | skip + 1, _ :: rest => decodeFrom named wide skip rest
  | 0, '\\' :: rest => do
    let (points, taken) ← meaning named wide rest
    let later ← decodeFrom named wide taken rest
    some (points ++ later)
  | 0, c :: rest => do
    let later ← decodeFrom named wide 0 rest
    some (c.toNat :: later)

def decodeText (named : List Char → Option Nat) (body : List Char) : Option CodePoints :=
  (decodeFrom named true 0 body).map CodePoints.mk

def decodeBytes (body : List Char) : Option (List UInt8) :=
  (decodeFrom (fun _ => none) false 0 body).map (·.map Nat.toUInt8)

end TypingAudit.Source.Escape
