import Registrar.Number.Binary64

/-!
# Shortest decimals

The decimal text of a binary64 number has two stages. First the digits: the fewest that still
round to the number, and of those the nearest to it. Then the layout, a record of decisions made
where the text is written.
-/

namespace Registrar

/-- The number `digits * 10 ^ scale`. -/
structure Decimal where
  digits : Nat
  scale : Int
  deriving DecidableEq, Repr

namespace Decimal

open Binary64 (twoTo tenTo)

/-- Compare `digits * 10 ^ scale` with `mantissa * 2 ^ exponent` exactly. -/
def compareBinary (d : Decimal) (mantissa : Nat) (exponent : Int) : Ordering :=
  compare (d.digits * tenTo d.scale.toNat * twoTo (-exponent).toNat)
    (mantissa * twoTo exponent.toNat * tenTo (-d.scale).toNat)

/-- Whether the decimal lies among the reals that round to `mantissa * 2 ^ exponent`. The reals
reach halfway to each neighbour, the ends included when the mantissa is even. Below the smallest
normal mantissa the neighbour is only half as far away. -/
def roundsTo (d : Decimal) (mantissa : Nat) (exponent : Int) : Bool :=
  let narrow := mantissa == Binary64.hiddenBit && Binary64.leastExponent < exponent
  let low := d.compareBinary (4 * mantissa - if narrow then 1 else 2) (exponent - 2)
  let high := d.compareBinary (4 * mantissa + 2) (exponent - 2)
  let inclusive := mantissa % 2 == 0
  (low == .gt || (inclusive && low == .eq)) && (high == .lt || (inclusive && high == .eq))

/-- The least `place` with `mantissa * 2 ^ exponent < 10 ^ place`, found near its estimate from
the binary logarithm. -/
def leadingPlace (mantissa : Nat) (exponent : Int) : Int :=
  let estimate := Int.fdiv (((mantissa.log2 : Int) + exponent) * 30103) 100000
  if compareBinary ⟨1, estimate⟩ mantissa exponent == .gt then estimate
  else if compareBinary ⟨1, estimate + 1⟩ mantissa exponent == .gt then estimate + 1
  else estimate + 2

/-- The point just below `mantissa * 2 ^ exponent` on the grid of step `10 ^ scale`. -/
def floorAt (mantissa : Nat) (exponent scale : Int) : Decimal :=
  ⟨mantissa * twoTo exponent.toNat * tenTo (-scale).toNat /
    (twoTo (-exponent).toNat * tenTo scale.toNat), scale⟩

/-- The nearer of the two neighbours on a grid that round to the number, if either does; a tie
goes to the even one. -/
def onGrid? (mantissa : Nat) (exponent scale : Int) : Option Decimal :=
  let lower := floorAt mantissa exponent scale
  let upper : Decimal := ⟨lower.digits + 1, scale⟩
  match lower.roundsTo mantissa exponent, upper.roundsTo mantissa exponent with
  | false, false => none
  | true, false => some lower
  | false, true => some upper
  | true, true =>
      match compareBinary ⟨lower.digits + upper.digits, scale⟩ (2 * mantissa) exponent with
      | .lt => some upper
      | .gt => some lower
      | .eq => some (if lower.digits % 2 = 0 then lower else upper)

/-- Drop trailing zero digits into the scale. -/
def strip : Nat → Decimal → Decimal
  | 0, d => d
  | fuel + 1, d =>
      if d.digits ≠ 0 ∧ d.digits % 10 = 0 then strip fuel ⟨d.digits / 10, d.scale + 1⟩ else d

/-- The fewest digits that round to `mantissa * 2 ^ exponent`. Seventeen always suffice; the exact
decimal stands behind them. -/
def shortest (mantissa : Nat) (exponent : Int) : Decimal :=
  let place := leadingPlace mantissa exponent
  let found := (List.range 17).findSome? fun (n : Nat) =>
    onGrid? mantissa exponent (place - (n + 1 : Nat))
  let exact : Decimal := ⟨mantissa * twoTo exponent.toNat * Nat.pow 5 (-exponent).toNat, min exponent 0⟩
  strip 400 (found.getD exact)

/-- How a number is laid out: which places of the leading digit are written positionally, the
least width of an exponent, and the words for the numbers that have no digits. -/
structure Layout where
  plainFrom : Int
  plainBelow : Int
  exponentWidth : Nat
  nan : String
  infinity : String
  deriving DecidableEq, Repr

/-- The digits of a positive decimal under a layout: positional with a digit on both sides of the
point, or one leading digit and a signed exponent. -/
def render (layout : Layout) (d : Decimal) : String :=
  let digits := Nat.toDigits 10 d.digits
  let place : Int := (digits.length : Int) - 1 + d.scale
  if layout.plainFrom ≤ place ∧ place < layout.plainBelow then
    if place < 0 then
      "0." ++ String.ofList (List.replicate (-place - 1).toNat '0' ++ digits)
    else
      let whole := digits.take (place.toNat + 1)
      let padding := List.replicate (place.toNat + 1 - digits.length) '0'
      let fraction := digits.drop (place.toNat + 1)
      String.ofList (whole ++ padding) ++ "." ++
        String.ofList (if fraction.isEmpty then ['0'] else fraction)
  else
    let fraction := digits.drop 1
    let exponent := Nat.toDigits 10 place.natAbs
    String.ofList (digits.take 1) ++
      String.ofList (if fraction.isEmpty then [] else '.' :: fraction) ++
      (if place < 0 then "e-" else "e+") ++
      String.ofList (List.replicate (layout.exponentWidth - exponent.length) '0' ++ exponent)

end Decimal

/-- The text of a binary64 number under a layout. -/
def Binary64.render (layout : Decimal.Layout) : Binary64 → String
  | .nan => layout.nan
  | .infinity negative => (if negative then "-" else "") ++ layout.infinity
  | .finite negative mantissa exponent =>
      (if negative then "-" else "") ++
        if mantissa = 0 then "0.0"
        else Decimal.render layout (Decimal.shortest mantissa exponent)

end Registrar
