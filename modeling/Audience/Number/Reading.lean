import Audience.Number.Basic
import Audience.Number.Digits

namespace Audience

/-! Numbers from decimal numerals.

A numeral is split into its digits once, by whoever scans the text.  Its value as a number is
found in three roundings at most for ordinary exponents: the leading digits that fit 64 bits make
the significand, which is rounded, and the power of ten is applied by one multiplication or
division with a rounded power.  Digits past the significand only move the exponent.
-/

/-- A decimal numeral as written. -/
structure Numeral where
  negative : Bool
  whole : List Nat
  fraction : Option (List Nat)
  exponent : Option Int
deriving Repr, DecidableEq

namespace Number

/-- Largest power of ten that one step applies. -/
def largestPower : Nat := 308

def powerOfTen (k : Nat) : Number := ofNat (Nat.pow 10 k)

/-- Divides by `10 ^ k`: by one power if it is small enough, else by the largest one first.  Zero
stays zero. -/
def dividePower (x : Number) (k : Nat) : Number :=
  if k ≤ largestPower then x.divide (powerOfTen k)
  else if x.isZero then x
  else dividePower (x.divide (powerOfTen largestPower)) (k - largestPower)
termination_by k
decreasing_by simp only [largestPower] at *; omega

/-- Applies a power of ten; nothing when the result is too large for a finite number. -/
def scaleByPower (x : Number) (exponent : Int) : Option Number :=
  if exponent < 0 then some (x.dividePower exponent.natAbs)
  else if exponent.natAbs ≤ largestPower then
    let product := x.multiply (powerOfTen exponent.natAbs)
    if product.isInfinite then none else some product
  else if x.isZero then some x
  else none

end Number

namespace Numeral

/-- Integers of 64 bits are smaller, `2 ^ 64`. -/
def wordLimit : Nat := 0x10000000000000000

/-- The natural number that digit characters write, if it fits 64 bits. -/
def word? (chars : List Char) : Option Nat := do
  let digits ← chars.mapM Digits.ofChar?
  let value := Digits.value digits
  if digits.isEmpty ∨ wordLimit ≤ value then none else some value

/-- Extends a significand by digits for as long as it fits 64 bits; the digits left over come
second. -/
def extend (significand : Nat) : List Nat → Nat × List Nat
  | [] => (significand, [])
  | digit :: rest =>
      if significand * 10 + digit < wordLimit then extend (significand * 10 + digit) rest
      else (significand, digit :: rest)

/-- The significand and the power of ten that a numeral is read as. -/
def scaled (n : Numeral) : Nat × Int :=
  let (leading, dropped) := extend 0 n.whole
  let fraction := n.fraction.getD []
  let (significand, ignored) := extend leading fraction
  let shift : Int := dropped.length - ((fraction.length : Int) - ignored.length)
  (significand, shift + n.exponent.getD 0)

/-- The number that a numeral is read as; nothing if it is too large. -/
def toNumber? (n : Numeral) : Option Number :=
  let (significand, exponent) := n.scaled
  (Number.ofNat significand |>.scaleByPower exponent).map (Number.withSign n.negative)

/-- The integer that a numeral without fraction and exponent stands for, if it fits 64 bits,
signed or unsigned.  Minus zero is no integer. -/
def toInteger? (n : Numeral) : Option Int :=
  match n.fraction, n.exponent with
  | none, none =>
      let value := Digits.value n.whole
      if n.negative then
        if 0 < value ∧ value ≤ Number.signBit then some (-value) else none
      else
        if value < wordLimit then some value else none
  | _, _ => none

end Numeral

end Audience
