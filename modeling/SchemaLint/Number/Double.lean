/-!
# Binary floating-point numbers

Numbers of 53 significant bits, as exact data: a mantissa times a power of two. A decimal is read as
the nearest such number, and of two equally near ones as the one with the even mantissa.
-/

namespace SchemaLint.Number

/-- A number in double precision. A finite one is `mantissa * 2 ^ exponent` with a mantissa below
`2 ^ 53`, which is at least `2 ^ 52` unless the exponent is the least one, -1074. -/
inductive Double where
  | finite (negative : Bool) (mantissa : Nat) (exponent : Int)
  | infinite (negative : Bool)
  | notANumber
  deriving DecidableEq, Repr

/-- The least mantissa of which all 53 bits count: `2 ^ 52`. -/
def leastFull : Nat := 0x10000000000000

/-- The whole number nearest to `num / den`, the even one of two equally near. -/
def roundDiv (num den : Nat) : Nat :=
  let quotient := num / den
  let twice := 2 * (num % den)
  if twice < den ∨ (twice = den ∧ quotient % 2 = 0) then quotient else quotient + 1

/-- The fraction `num / den` divided by `base ^ exponent`. -/
def scaleDown (base : Nat) (num den : Nat) (exponent : Int) : Nat × Nat :=
  if 0 ≤ exponent then (num, den * Nat.pow base exponent.toNat)
  else (num * Nat.pow base (-exponent).toNat, den)

/-- The double nearest to the positive fraction `num / den`. -/
def Double.ofFraction (negative : Bool) (num den : Nat) : Double :=
  let guess : Int := (Nat.log2 num : Int) - Nat.log2 den - 52
  let (n, d) := scaleDown 2 num den guess
  let fitted := if n / d < leastFull then guess - 1 else guess
  let exponent := max fitted (-1074)
  let (n, d) := scaleDown 2 num den exponent
  let mantissa := roundDiv n d
  let (mantissa, exponent) :=
    if mantissa = 2 * leastFull then (leastFull, exponent + 1) else (mantissa, exponent)
  if 971 < exponent then .infinite negative else .finite negative mantissa exponent

/-- The double nearest to `digits * 10 ^ exponent`. Exponents far outside the range are settled
without computing the power. -/
def Double.ofDecimal (negative : Bool) (digits : Nat) (exponent : Int) : Double :=
  let magnitude := exponent + (Nat.toDigits 10 digits).length
  if digits = 0 ∨ magnitude < -400 then .finite negative 0 (-1074)
  else if 400 < magnitude then .infinite negative
  else
    let (num, den) := scaleDown 10 digits 1 (-exponent)
    .ofFraction negative num den

end SchemaLint.Number
