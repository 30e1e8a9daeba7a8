import Audience.Number.Basic
import Audience.Number.Digits

namespace Audience

/-! The shortest decimal that stands for a number.

A decimal stands for a finite number when it lies in the interval of reals that round to it.  Of
the decimals with fewest digits in that interval the one nearest to the number is taken, a tie to
the even digit.
-/

/-- A positive decimal: `digits * 10 ^ exponent`. -/
structure Decimal where
  digits : Nat
  exponent : Int
deriving Repr, DecidableEq

namespace Number

/-- The interval of reals that round to a positive finite number, in half units: the two midpoints
toward its neighbours, and whether they belong to it. -/
structure RoundingInterval where
  low : Nat
  value : Nat
  high : Nat
  closed : Bool
deriving Repr

def roundingInterval (x : Number) : RoundingInterval :=
  let unsigned := x.unsignedBits
  let middle := x.magnitude
  { low := magnitudeOfBits (unsigned - 1) + middle
    value := 2 * middle
    high := middle + magnitudeOfBits (unsigned + 1)
    closed := unsigned % 2 == 0 }

namespace RoundingInterval

/-- Whether `num / den` half units lie in the interval. -/
def contains (interval : RoundingInterval) (num den : Nat) : Bool :=
  if interval.closed then
    decide (interval.low * den ≤ num) && decide (num ≤ interval.high * den)
  else
    decide (interval.low * den < num) && decide (num < interval.high * den)

/-- The point of the grid `step / den` half units that is in the interval and nearest to its
value, as a multiple of the step. -/
def nearestOnGrid (interval : RoundingInterval) (step den : Nat) : Option Nat :=
  let target := interval.value * den
  let below := target / step
  let above := below + 1
  let belowFits := interval.contains (below * step) den
  let aboveFits := interval.contains (above * step) den
  let belowGap := target - below * step
  let aboveGap := above * step - target
  match belowFits, aboveFits with
  | false, false => none
  | true, false => some below
  | false, true => some above
  | true, true =>
      if belowGap < aboveGap then some below
      else if aboveGap < belowGap then some above
      else some (below + below % 2)

/-- The nearest multiple of `10 ^ exponent`, if one lies in the interval. -/
def atPower (interval : RoundingInterval) (exponent : Int) : Option Nat :=
  let halves := 2 * unitsPerOne
  if exponent < 0 then interval.nearestOnGrid halves (Nat.pow 10 exponent.natAbs)
  else interval.nearestOnGrid (halves * Nat.pow 10 exponent.natAbs) 1

/-- Tries the powers of ten from `exponent` downward. -/
def search (interval : RoundingInterval) (exponent : Int) : Nat → Option Decimal
  | 0 => none
  | tries + 1 =>
      match interval.atPower exponent with
      | some digits => some ⟨digits, exponent⟩
      | none => search interval (exponent - 1) tries

end RoundingInterval

/-- The exponent of ten of the leading digit of a positive `num / den`, or one more. -/
def leadingExponent (num den : Nat) : Int :=
  if den ≤ num then (Digits.ofNat (num / den)).length
  else 1 - ((Digits.ofNat (den / num)).length : Int)

/-- The shortest decimal of a positive finite number.  Every such number has one of at most
seventeen digits. -/
def shortest (x : Number) : Decimal :=
  let start := leadingExponent x.magnitude unitsPerOne
  (x.roundingInterval.search start 20).getD ⟨0, 0⟩

end Number

namespace Decimal

/-- The digits without trailing zeros, and the exponent of the leading one. -/
def scientific (d : Decimal) : List Nat × Int :=
  let digits := Digits.ofNat d.digits
  let kept := (digits.reverse.dropWhile (· == 0)).reverse
  (kept, d.exponent + ((digits.length : Int) - 1))

end Decimal

end Audience
