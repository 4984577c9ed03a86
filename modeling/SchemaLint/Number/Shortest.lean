import SchemaLint.Number.Double

/-!
# Shortest decimals

A double is written with the fewest digits that read back as the same number, and with those digits
nearest to it. Which digits these are is found in whole numbers: for 1, 2, … 17 digits the two
neighbours of the number on that decimal grid are tested against the interval of numbers that round
to it.
-/

namespace SchemaLint.Number

/-- A decimal `digits * 10 ^ exponent`. -/
structure Decimal where
  digits : Nat
  exponent : Int

/-- `a / b` is less than `c / d`. -/
def fractionLt (a b c d : Nat) : Bool := a * d < c * b

/-- The decimal as a fraction. -/
def Decimal.toFraction (x : Decimal) : Nat × Nat := scaleDown 10 x.digits 1 (-x.exponent)

/-- The decimal rounds to `mantissa * 2 ^ exponent`. The lower half of the interval is only half as
wide at a power of two; the ends belong to it when the mantissa is even. -/
def readsBack (mantissa : Nat) (exponent : Int) (x : Decimal) : Bool :=
  let (num, den) := x.toFraction
  let below := if mantissa = leastFull ∧ -1074 < exponent then 4 * mantissa - 1 else 4 * mantissa - 2
  let (lowNum, lowDen) := scaleDown 2 below 1 (2 - exponent)
  let (highNum, highDen) := scaleDown 2 (4 * mantissa + 2) 1 (2 - exponent)
  if mantissa % 2 = 0 then
    !fractionLt num den lowNum lowDen && !fractionLt highNum highDen num den
  else fractionLt lowNum lowDen num den && fractionLt num den highNum highDen

/-- The exponent of the first decimal digit of `num / den`, sought downwards from `guess`. -/
def leadingExponent (num den : Nat) : Nat → Int → Int
  | 0, guess => guess
  | fuel + 1, guess =>
    let (n, d) := scaleDown 10 num den guess
    if d ≤ n then guess else leadingExponent num den fuel (guess - 1)

/-- The neighbour on the grid of multiples of `10 ^ exponent` that rounds to the number, the nearer
of two. -/
def onGrid (mantissa : Nat) (exponent : Int) (num den : Nat) (grid : Int) : Option Decimal :=
  let (n, d) := scaleDown 10 num den grid
  let nearest := roundDiv n d
  let other := if nearest = n / d then nearest + 1 else nearest - 1
  ([nearest, other].map (⟨·, grid⟩ : Nat → Decimal)).find? (readsBack mantissa exponent)

/-- The shortest decimal of a positive double. -/
def shortest (mantissa : Nat) (exponent : Int) : Decimal :=
  let (num, den) := scaleDown 2 mantissa 1 (-exponent)
  let first := leadingExponent num den 700 330
  ((List.range 17).findSome? fun (n : Nat) => onGrid mantissa exponent num den (first - n)).getD ⟨0, 0⟩

/-- The decimal without zeros at the end of its digits. -/
def Decimal.trimZeros : Nat → Decimal → Decimal
  | 0, x => x
  | fuel + 1, x =>
    if x.digits ≠ 0 ∧ x.digits % 10 = 0 then trimZeros fuel ⟨x.digits / 10, x.exponent + 1⟩ else x

/-- How doubles are written in messages: positionally when the point stands at most three zeros
before the digits or at most sixteen places into them, and with at least one digit after the point;
otherwise with an exponent of a sign and two or more digits. -/
def Decimal.text (x : Decimal) : String :=
  let ds := Nat.toDigits 10 x.digits
  let point : Int := x.exponent + ds.length
  if -4 < point ∧ point ≤ 16 then
    if point ≤ 0 then
      String.ofList ('0' :: '.' :: List.replicate (-point).toNat '0' ++ ds)
    else
      let whole := ds.take point.toNat ++ List.replicate (point.toNat - ds.length) '0'
      let fraction := ds.drop point.toNat
      String.ofList (whole ++ '.' :: if fraction.isEmpty then ['0'] else fraction)
  else
    let power := point - 1
    let sign := if power < 0 then '-' else '+'
    let powerDigits := Nat.toDigits 10 power.natAbs
    let padding := List.replicate (2 - powerDigits.length) '0'
    let fraction := ds.drop 1
    String.ofList (ds.take 1 ++ (if fraction.isEmpty then [] else '.' :: fraction) ++
      'e' :: sign :: padding ++ powerDigits)

/-- The text of a double. -/
def Double.text : Double → String
  | .notANumber => "nan"
  | .infinite negative => if negative then "-inf" else "inf"
  | .finite negative mantissa exponent =>
    let digits :=
      if mantissa = 0 then "0.0" else ((shortest mantissa exponent).trimZeros 400).text
    if negative then "-" ++ digits else digits

end SchemaLint.Number
