/-!
# Binary64 numbers

A number of the IEEE 754 binary64 format as exact data: sign, integer mantissa and binary
exponent. Decimals are rounded to it in exact natural-number arithmetic, to nearest with ties to
the even mantissa, so no machine arithmetic is involved and every value can be evaluated in a
proof.
-/

namespace Registrar

/-- A binary64 number: not a number, an infinity, or `mantissa * 2 ^ exponent` with a sign. -/
inductive Binary64 where
  | nan
  | infinity (negative : Bool)
  | finite (negative : Bool) (mantissa : Nat) (exponent : Int)
  deriving DecidableEq, Repr, Inhabited

namespace Binary64

/-- The mantissa of a normal number lies in `[hiddenBit, 2 * hiddenBit)`. -/
def hiddenBit : Nat := 0x10000000000000

/-- A power of two. -/
def twoTo (n : Nat) : Nat := Nat.pow 2 n

/-- A power of ten. -/
def tenTo (n : Nat) : Nat := Nat.pow 10 n

/-- The exponent of the subnormal numbers and of the smallest normal ones. -/
def leastExponent : Int := -1074

/-- The exponent of the largest finite numbers. -/
def greatestExponent : Int := 971

/-- Zero with a sign. -/
def zero (negative : Bool) : Binary64 := .finite negative 0 leastExponent

/-- The quotient rounded to the nearest natural number, a tie going to the even one. -/
def divideToEven (numerator denominator : Nat) : Nat :=
  let quotient := numerator / denominator
  let twice := 2 * (numerator % denominator)
  if twice < denominator then quotient
  else if denominator < twice then quotient + 1
  else if quotient % 2 = 0 then quotient
  else quotient + 1

/-- The positive quotient `numerator / denominator` rounded to binary64. The exponent is chosen
so that the mantissa has 53 bits, unless that would leave the range of subnormal numbers. -/
def ofQuotient (negative : Bool) (numerator denominator : Nat) : Binary64 :=
  let guess : Int := (numerator.log2 : Int) - denominator.log2 - 53
  let scaled (exponent : Int) : Nat × Nat :=
    (numerator * twoTo (-exponent).toNat, denominator * twoTo exponent.toNat)
  let tight := scaled guess
  let fitting := if 2 * hiddenBit * tight.2 ≤ tight.1 then guess + 1 else guess
  let exponent := max fitting leastExponent
  let pair := scaled exponent
  let mantissa := divideToEven pair.1 pair.2
  let (mantissa, exponent) :=
    if mantissa = 2 * hiddenBit then (hiddenBit, exponent + 1) else (mantissa, exponent)
  if greatestExponent < exponent then .infinity negative
  else .finite negative mantissa exponent

/-- The decimal `digits * 10 ^ scale` rounded to binary64. Decimals beyond every finite number are
settled by the place of their leading digit, so a huge scale costs nothing. -/
def ofDecimal (negative : Bool) (digits : Nat) (scale : Int) : Binary64 :=
  if digits = 0 then zero negative
  else
    let leading : Int := (Nat.toDigits 10 digits).length + scale
    if 310 < leading then .infinity negative
    else if leading < -330 then zero negative
    else ofQuotient negative (digits * tenTo scale.toNat) (tenTo (-scale).toNat)

/-- Whether the number is one of the two zeros. -/
def isZero : Binary64 → Bool
  | .finite _ 0 _ => true
  | _ => false

end Binary64

end Registrar
