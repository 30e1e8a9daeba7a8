import Audience.Number.Shortest

namespace Audience

/-! The text of a number.

Which decimals are written plainly, and how an exponent is written, is fixed by one record.
-/

/-- How decimals are written: plainly from `10 ^ plainFrom` up to below `10 ^ plainBelow`, with an
exponent otherwise. -/
structure NumberLayout where
  plainFrom : Int
  plainBelow : Int
  exponentMark : Char
  signOfPositiveExponent : List Char
deriving Repr

/-- Rule values write numbers plainly from `0.00001` to below `10 ^ 16` and show the sign of every
exponent. -/
def NumberLayout.ofValues : NumberLayout := ⟨-5, 16, 'e', ['+']⟩

namespace Number

/-- Digits with the point after the leading `exponent + 1` of them; a fraction is always shown. -/
def plainChars (digits : List Nat) (exponent : Int) : List Char :=
  if exponent < 0 then
    '0' :: '.' :: Digits.chars (List.replicate (exponent.natAbs - 1) 0 ++ digits)
  else
    let count := exponent.natAbs + 1
    let whole := digits.take count ++ List.replicate (count - digits.length) 0
    let fraction := if count < digits.length then digits.drop count else [0]
    Digits.chars whole ++ '.' :: Digits.chars fraction

def exponentChars (layout : NumberLayout) (digits : List Nat) (exponent : Int) : List Char :=
  let fraction := digits.drop 1
  let significand := Digits.chars (digits.take 1) ++
    if fraction.isEmpty then [] else '.' :: Digits.chars fraction
  let sign := if exponent < 0 then ['-'] else layout.signOfPositiveExponent
  significand ++ layout.exponentMark :: (sign ++ Digits.chars (Digits.ofNat exponent.natAbs))

def magnitudeChars (layout : NumberLayout) (x : Number) : List Char :=
  if x.isZero then plainChars [0] 0
  else
    let (digits, exponent) := x.shortest.scientific
    if layout.plainFrom ≤ exponent ∧ exponent < layout.plainBelow then plainChars digits exponent
    else exponentChars layout digits exponent

/-- The text of a finite number. -/
def chars (layout : NumberLayout) (x : Number) : List Char :=
  if x.negative then '-' :: x.magnitudeChars layout else x.magnitudeChars layout

end Number

end Audience
