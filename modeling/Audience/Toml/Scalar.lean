import Audience.Number.Reading
import Audience.Toml.Basic

namespace Audience

namespace Toml

/-! Numbers, truth values and moments in time.

Each is one word, up to the first character that none of them can hold; only a date and a time of
day may be two.
-/

def isWordChar (c : Char) : Bool :=
  c.isAlphanum || c == '+' || c == '-' || c == '_' || c == '.' || c == ':'

/-- The values of digits, between any two of which one underscore may stand. -/
def ungroup (digit? : Char → Option Nat) : List Char → Option (List Nat)
  | [] => none
  | [c] => (digit? c).map ([·])
  | c :: '_' :: rest => do
      let first ← digit? c
      (ungroup digit? rest).map (first :: ·)
  | c :: rest => do
      let first ← digit? c
      (ungroup digit? rest).map (first :: ·)

/-- A sign that may be missing, and the rest. -/
def splitSign : List Char → Bool × List Char
  | '-' :: rest => (true, rest)
  | '+' :: rest => (false, rest)
  | word => (false, word)

/-- A whole number in decimal digits, without needless zeros. -/
def decimal? (word : List Char) : Option (List Nat) := do
  let digits ← ungroup Digits.ofChar? word
  match digits with
  | 0 :: _ :: _ => none
  | _ => some digits

/-- The number that digits to a base stand for. -/
def valueInBase (base : Nat) (digits : List Nat) : Nat :=
  digits.foldl (fun total digit => total * base + digit) 0

def hexDigit? (c : Char) : Option Nat :=
  if 'a' ≤ c ∧ c ≤ 'f' then some (c.toNat - 'a'.toNat + 10)
  else if 'A' ≤ c ∧ c ≤ 'F' then some (c.toNat - 'A'.toNat + 10)
  else Digits.ofChar? c

def digitBelow? (base : Nat) (c : Char) : Option Nat :=
  (hexDigit? c).filter fun digit => decide (digit < base)

/-- An integer that fits 64 bits. -/
def inRange? (value : Int) : Option Int :=
  if Int64.minValue.toInt ≤ value ∧ value ≤ Int64.maxValue.toInt then some value else none

def integer? (word : List Char) : Option Int :=
  let based (base : Nat) (digits : List Char) : Option Int := do
    inRange? (valueInBase base (← ungroup (digitBelow? base) digits))
  match word with
  | '0' :: 'x' :: digits => based 16 digits
  | '0' :: 'o' :: digits => based 8 digits
  | '0' :: 'b' :: digits => based 2 digits
  | _ => do
      let (negative, unsigned) := splitSign word
      let value : Int := Digits.value (← decimal? unsigned)
      inRange? (if negative then -value else value)

/-- The exponent of a numeral, behind its letter. -/
def exponent? (word : List Char) : Option Int := do
  let (negative, unsigned) := splitSign word
  let value : Int := Digits.value (← ungroup Digits.ofChar? unsigned)
  some (if negative then -value else value)

/-- A numeral with a fraction or an exponent. -/
def numeral? (word : List Char) : Option Numeral := do
  let (negative, unsigned) := splitSign word
  let (mantissa, behind) := unsigned.span fun c => c != 'e' && c != 'E'
  let (whole, fraction) := mantissa.span (· != '.')
  let wholeDigits ← decimal? whole
  let fractionDigits ← match fraction with
    | [] => some none
    | _ :: digits => (ungroup Digits.ofChar? digits).map some
  let exponent ← match behind with
    | [] => some none
    | _ :: written => (exponent? written).map some
  if fractionDigits.isNone && exponent.isNone then none
  else some ⟨negative, wholeDigits, fractionDigits, exponent⟩

/-- Whether the value of a numeral, without its sign, rounds to infinity. -/
def isTooLarge (numeral : Numeral) : Bool :=
  let fraction := numeral.fraction.getD []
  let significand := Digits.value (numeral.whole ++ fraction)
  let power : Int := numeral.exponent.getD 0 - fraction.length
  let size : Int := (Digits.ofNat significand).length + power
  if significand = 0 ∨ size < 300 then false
  else if 400 < size then true
  else if power < 0 then (Number.nearest significand (Nat.pow 10 power.natAbs)).isInfinite
  else (Number.nearest (significand * Nat.pow 10 power.natAbs) 1).isInfinite

/-- Whether a word is a floating-point number.  Positive ones must not be too large. -/
def isFloat (word : List Char) : Bool :=
  let (_, unsigned) := splitSign word
  unsigned == "inf".toList || unsigned == "nan".toList ||
    (numeral? word).any fun numeral => numeral.negative || !isTooLarge numeral

/-- A number of two digits in a range. -/
def twoDigits? (least most : Nat) (tens ones : Char) : Option Nat := do
  let value := (← Digits.ofChar? tens) * 10 + (← Digits.ofChar? ones)
  if least ≤ value ∧ value ≤ most then some value else none

def daysOfMonth (year month : Nat) : Nat :=
  if month = 2 then
    if year % 4 = 0 ∧ (year % 100 ≠ 0 ∨ year % 400 = 0) then 29 else 28
  else if month = 4 ∨ month = 6 ∨ month = 9 ∨ month = 11 then 30 else 31

/-- What follows a date at the front of a word. -/
def afterDate? : List Char → Option (List Char)
  | a :: b :: c :: d :: '-' :: e :: f :: '-' :: g :: h :: rest => do
      let year := Digits.value (← [a, b, c, d].mapM Digits.ofChar?)
      let month ← twoDigits? 1 12 e f
      let _ ← twoDigits? 1 (daysOfMonth year month) g h
      some rest
  | _ => none

/-- What follows a time of day at the front of a word. -/
def afterTime? : List Char → Option (List Char)
  | a :: b :: ':' :: c :: d :: ':' :: e :: f :: rest => do
      let _ ← twoDigits? 0 23 a b
      let _ ← twoDigits? 0 59 c d
      let _ ← twoDigits? 0 60 e f
      match rest with
      | '.' :: fraction =>
          match fraction.span Char.isDigit with
          | ([], _) => none
          | (_, behind) => some behind
      | _ => some rest
  | _ => none

/-- An offset from universal time, or none. -/
def isOffset : List Char → Bool
  | [] | ['Z'] | ['z'] => true
  | [sign, a, b, ':', c, d] =>
      (sign == '+' || sign == '-') && (twoDigits? 0 23 a b).isSome && (twoDigits? 0 59 c d).isSome
  | _ => false

/-- A time of day, with or without an offset. -/
def isOffsetTime (word : List Char) : Bool :=
  (afterTime? word).any isOffset

/-- A date, a time of day or both. -/
def isMoment (word : List Char) : Bool :=
  match afterDate? word with
  | some [] => true
  | some (delimiter :: rest) => (delimiter == 'T' || delimiter == 't') && isOffsetTime rest
  | none => afterTime? word == some []

/-- The value that a word stands for. -/
def ofWord? (word : List Char) : Option Value :=
  if word = "true".toList then some (.bool true)
  else if word = "false".toList then some (.bool false)
  else match integer? word with
    | some value => some (.integer value)
    | none =>
        if isFloat word then some (.float (String.ofList word))
        else if isMoment word then some (.moment (String.ofList word))
        else none

/-- A value that is written as a word, or as a date and a time with a space between them. -/
def scalar : Scan Value := fun text =>
  let (word, rest) := text.span isWordChar
  match afterDate? word, rest with
  | some [], ' ' :: behind =>
      match behind.span isWordChar with
      | ([], _) => (ofWord? word).map (·, rest)
      | (time, after) =>
          if isOffsetTime time then
            some (.moment (String.ofList (word ++ ' ' :: time)), after)
          else none
  | _, _ => (ofWord? word).map (·, rest)

end Toml

end Audience
