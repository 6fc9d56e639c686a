import TypingAudit.Decimal.Binary

/-!
The fewest decimal digits that read back as a given value. For one digit, two digits and so on, the two
neighbours of the value on that decimal grid are tested against the interval of numbers that round to
it; the first grid with a hit wins, and of two hits the nearer. Seventeen digits always suffice.
-/

namespace TypingAudit.Decimal

/-- The number `0.d₁d₂… · 10 ^ point`, where `d₁d₂…` are the digits. -/
structure Digits where
  digits : List Char
  point : Int
deriving DecidableEq, Repr

namespace Shortest

def decimalDigits (n : Nat) : List Char := Nat.toDigits 10 n

/-- The least `k` above `start` with `denominator ≤ numerator · 10 ^ k`, searched for `fuel` steps. -/
def leadingZeros (numerator denominator : Nat) : Nat → Nat → Nat
  | 0, start => start
  | fuel + 1, start =>
    if denominator ≤ numerator * Nat.pow 10 (start + 1) then start
    else leadingZeros numerator denominator fuel (start + 1)

def pointOf (numerator denominator : Nat) : Int :=
  if denominator ≤ numerator then ((decimalDigits (numerator / denominator)).length : Int)
  else -((leadingZeros numerator denominator 400 0 : Nat) : Int)

structure Interval where
  value : Nat
  low : Nat
  high : Nat
  denominator : Nat
  closed : Bool
deriving Repr

/-- The numbers that round to `significand · 2 ^ exponent`. Below a power of two the values stand twice
as close, and an end belongs to the interval when the significand is even. -/
def intervalOf (significand : Nat) (exponent : Int) : Interval :=
  let below := if significand = Nat.pow 2 52 ∧ -1074 < exponent then 1 else 2
  let scale (n : Nat) : Nat :=
    match exponent with
    | .ofNat e => n * Nat.pow 2 e
    | .negSucc _ => n
  let denominator :=
    match exponent with
    | .ofNat _ => 4
    | .negSucc e => 4 * Nat.pow 2 (e + 1)
  ⟨scale (4 * significand), scale (4 * significand - below), scale (4 * significand + 2),
    denominator, significand % 2 = 0⟩

def Interval.holds (i : Interval) (n unit unitDenominator : Nat) : Bool :=
  let here := n * unit * i.denominator
  let low := i.low * unitDenominator
  let high := i.high * unitDenominator
  if i.closed then low ≤ here && here ≤ high else low < here && here < high

def onGrid (i : Interval) (point : Int) (count : Nat) : Option Nat :=
  let power : Int := point - count
  let unit := match power with | .ofNat n => Nat.pow 10 n | .negSucc _ => 1
  let unitDenominator := match power with | .ofNat _ => 1 | .negSucc n => Nat.pow 10 (n + 1)
  let below := i.value * unitDenominator / (i.denominator * unit)
  let belowGap := i.value * unitDenominator - below * unit * i.denominator
  let aboveGap := (below + 1) * unit * i.denominator - i.value * unitDenominator
  let lower := i.holds below unit unitDenominator
  let upper := i.holds (below + 1) unit unitDenominator
  if lower && (!upper || belowGap < aboveGap || (belowGap == aboveGap && below % 2 == 0)) then
    some below
  else if upper then some (below + 1)
  else none

def search (i : Interval) (point : Int) : Nat → Nat → Nat × Nat
  | 0, count => ((onGrid i point count).getD 0, count)
  | fuel + 1, count =>
    match onGrid i point count with
    | some n => (n, count)
    | none => search i point fuel (count + 1)

def dropTrailingZeros (digits : List Char) : List Char :=
  match (digits.reverse.dropWhile (· == '0')).reverse with
  | [] => ['0']
  | kept => kept

end Shortest

open Shortest in
def shortestDigits (significand : Nat) (exponent : Int) : Digits :=
  if significand = 0 then ⟨['0'], 1⟩
  else
    let i := intervalOf significand exponent
    let point := pointOf i.value i.denominator
    let (n, count) := search i point 16 1
    let digits := decimalDigits n
    ⟨dropTrailingZeros digits, point + ((digits.length : Int) - (count : Int))⟩

/-- How a value is laid out: positional while the decimal point stands within `lowest` and `highest`
places of the first digit, otherwise with an exponent of at least two digits. -/
structure Layout where
  lowest : Int
  highest : Int
  /-- Whether a whole number keeps one place after the point. -/
  keepsPoint : Bool
  infinity : String

namespace Layout

def zeros (n : Nat) : List Char := List.replicate n '0'

def exponentText (exponent : Int) : List Char :=
  let digits := Shortest.decimalDigits exponent.natAbs
  (if exponent < 0 then '-' else '+') :: (zeros (2 - digits.length) ++ digits)

def positional (layout : Layout) (d : Digits) : List Char :=
  match d.point with
  | .ofNat point =>
    if d.digits.length ≤ point then
      d.digits ++ zeros (point - d.digits.length) ++ (if layout.keepsPoint then ['.', '0'] else [])
    else if point = 0 then '0' :: '.' :: d.digits
    else d.digits.take point ++ '.' :: d.digits.drop point
  | .negSucc n => '0' :: '.' :: (zeros (n + 1) ++ d.digits)

def scientific (d : Digits) : List Char :=
  let mantissa :=
    match d.digits with
    | [] => ['0']
    | [first] => [first]
    | first :: rest => first :: '.' :: rest
  mantissa ++ 'e' :: exponentText (d.point - 1)

def write (layout : Layout) : Binary → String
  | .infinite => layout.infinity
  | .finite significand exponent =>
    let d := shortestDigits significand exponent
    if layout.lowest < d.point ∧ d.point ≤ layout.highest then String.ofList (layout.positional d)
    else String.ofList (scientific d)

end Layout

end TypingAudit.Decimal
