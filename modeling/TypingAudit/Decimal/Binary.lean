/-!
Non-negative floating-point values with a 53-bit significand. A decimal is read as the nearest such
value, a tie going to the even significand; a decimal beyond the largest finite value is infinite.
-/

namespace TypingAudit.Decimal

/-- The value `significand · 2 ^ exponent`, or one beyond every finite value. Finite values are kept in
lowest-exponent form: the exponent is least with a significand below `2 ^ 53`, and at least `-1074`. -/
inductive Binary where
  | finite (significand : Nat) (exponent : Int)
  | infinite
deriving DecidableEq, Repr

namespace Binary

def zero : Binary := .finite 0 (-1074)

def roundQuotient (numerator denominator : Nat) : Nat :=
  let whole := numerator / denominator
  let twice := 2 * (numerator % denominator)
  if twice < denominator then whole
  else if denominator < twice then whole + 1
  else whole + whole % 2

def shifted (numerator denominator : Nat) (shift : Int) : Nat × Nat :=
  match shift with
  | .ofNat n => (numerator, denominator * Nat.pow 2 n)
  | .negSucc n => (numerator * Nat.pow 2 (n + 1), denominator)

def ofQuotient (numerator denominator : Nat) : Binary :=
  let guess : Int := (numerator.log2 : Int) - (denominator.log2 : Int) - 52
  let (n, d) := shifted numerator denominator guess
  let exponent : Int := max (-1074) (if n < Nat.pow 2 52 * d then guess - 1 else guess)
  let (n, d) := shifted numerator denominator exponent
  let rounded := roundQuotient n d
  let (significand, exponent) :=
    if rounded = Nat.pow 2 53 then (Nat.pow 2 52, exponent + 1) else (rounded, exponent)
  if 971 < exponent then .infinite else .finite significand exponent

/-- The value nearest to `digits · 10 ^ scale`. Scales far outside the finite range are decided by
their size alone. -/
def ofDecimal (digits : Nat) (scale : Int) : Binary :=
  if digits = 0 then zero
  else if 400 < scale then .infinite
  else if scale < -(400 + (digits.log2 : Int)) then zero
  else
    match scale with
    | .ofNat n => ofQuotient (digits * Nat.pow 10 n) 1
    | .negSucc n => ofQuotient digits (Nat.pow 10 (n + 1))

end Binary

end TypingAudit.Decimal
