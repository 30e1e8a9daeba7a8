namespace Audience

/-! Binary64 numbers as data.

A number is its 64 bits.  The magnitude of a finite number is the natural number that stands for
it in units of `2 ^ -1074`, the smallest positive number, so exact statements about values are
statements about natural numbers.  `nearest` rounds a quotient of natural numbers to the closest
number and sends a tie to the even significand.
-/

/-- A binary64 number, infinities and not-a-number included. -/
structure Number where
  bits : UInt64
deriving Repr, DecidableEq

namespace Number

/-- The lowest bit of the exponent field, `2 ^ 52`. -/
def exponentUnit : Nat := 0x10000000000000

/-- The sign bit, `2 ^ 63`. -/
def signBit : Nat := 0x8000000000000000

/-- Bits of positive infinity: every finite magnitude has smaller ones. -/
def infinityBits : Nat := 2047 * exponentUnit

def negative (x : Number) : Bool :=
  decide (signBit ≤ x.bits.toNat)

/-- The bits without the sign. -/
def unsignedBits (x : Number) : Nat :=
  x.bits.toNat % signBit

def isFinite (x : Number) : Bool :=
  decide (x.unsignedBits < infinityBits)

def isInfinite (x : Number) : Bool :=
  decide (x.unsignedBits = infinityBits)

def isZero (x : Number) : Bool :=
  decide (x.unsignedBits = 0)

/-- The magnitude that unsigned bits stand for.  The first two binades count in units of one;
from then on the fraction field carries a hidden bit and each binade doubles the unit. -/
def magnitudeOfBits (unsigned : Nat) : Nat :=
  let exponent := unsigned / exponentUnit
  let fraction := unsigned % exponentUnit
  if exponent = 0 then fraction else (fraction + exponentUnit) * Nat.pow 2 (exponent - 1)

/-- The absolute value of a finite number in units of `2 ^ -1074`. -/
def magnitude (x : Number) : Nat :=
  magnitudeOfBits x.unsignedBits

/-- The number of units that make one. -/
def unitsPerOne : Nat := Nat.pow 2 1074

def ofUnsignedBits (negative : Bool) (unsigned : Nat) : Number :=
  ⟨UInt64.ofNat (unsigned + if negative then signBit else 0)⟩

def zero : Number := ofUnsignedBits false 0

def infinite (negative : Bool) : Number := ofUnsignedBits negative infinityBits

def negate (x : Number) : Number :=
  ofUnsignedBits (!x.negative) x.unsignedBits

def withSign (negative : Bool) (x : Number) : Number :=
  ofUnsignedBits negative x.unsignedBits

/-- The quotient rounded to the closest natural number, a tie to the even one. -/
def roundQuotient (num den : Nat) : Nat :=
  let quotient := num / den
  let rest := num % den
  if 2 * rest < den then quotient
  else if den < 2 * rest then quotient + 1
  else quotient + quotient % 2

/-- The nonnegative number closest to `num / den`, a tie to the even significand; infinity from
half a unit above the largest finite number on. -/
def nearest (num den : Nat) : Number :=
  let units := num * unitsPerOne
  let binade := (units / den).log2 - 52
  let significand := roundQuotient units (den * Nat.pow 2 binade)
  ofUnsignedBits false (min (binade * exponentUnit + significand) infinityBits)

def ofNat (n : Nat) : Number := nearest n 1

def ofInt (n : Int) : Number :=
  if n < 0 then (ofNat n.natAbs).negate else ofNat n.natAbs

/-- The product of two nonnegative finite numbers, rounded once. -/
def multiply (x y : Number) : Number :=
  nearest (x.magnitude * y.magnitude) (unitsPerOne * unitsPerOne)

/-- The quotient of a nonnegative finite number by a positive one, rounded once. -/
def divide (x y : Number) : Number :=
  nearest x.magnitude y.magnitude

/-- The whole part of a finite number: its value rounded toward zero. -/
def wholePart (x : Number) : Int :=
  let whole : Int := (x.magnitude / unitsPerOne : Nat)
  if x.negative then -whole else whole

/-- An integer moved into the range of 64-bit signed integers. -/
def clampToInt64 (n : Int) : Int64 :=
  if n < Int64.minValue.toInt then Int64.minValue
  else if Int64.maxValue.toInt < n then Int64.maxValue
  else Int64.ofInt n

/-- The whole part as a 64-bit signed integer.  Values outside the range give its nearer end, and
what is not a number gives zero. -/
def toInt64 (x : Number) : Int64 :=
  if x.isFinite then clampToInt64 x.wholePart
  else if x.isInfinite then (if x.negative then Int64.minValue else Int64.maxValue)
  else 0

end Number

end Audience
