namespace Audience

/-! Decimal digits of natural numbers, most significant first, and their characters. -/

namespace Digits

/-- The decimal digits of a number; zero has one digit. -/
def ofNat (n : Nat) : List Nat :=
  if n < 10 then [n] else ofNat (n / 10) ++ [n % 10]

/-- The number that digits stand for. -/
def value (digits : List Nat) : Nat :=
  digits.foldl (fun total digit => total * 10 + digit) 0

def toChar (digit : Nat) : Char :=
  Char.ofNat ('0'.toNat + digit)

/-- The value of a decimal digit character. -/
def ofChar? (c : Char) : Option Nat :=
  if '0' ≤ c ∧ c ≤ '9' then some (c.toNat - '0'.toNat) else none

def chars (digits : List Nat) : List Char :=
  digits.map toChar

theorem value_append_singleton (digits : List Nat) (digit : Nat) :
    value (digits ++ [digit]) = value digits * 10 + digit := by
  simp [value]

theorem value_ofNat (n : Nat) : value (ofNat n) = n := by
  induction n using Nat.strongRecOn with
  | ind n ih =>
      rw [ofNat]
      split
      · simp [value]
      · rw [value_append_singleton, ih (n / 10) (by omega)]
        omega

theorem lt_ten_of_mem_ofNat {n digit : Nat} (member : digit ∈ ofNat n) : digit < 10 := by
  induction n using Nat.strongRecOn with
  | ind n ih =>
      rw [ofNat] at member
      split at member
      · simp at member
        omega
      · rcases List.mem_append.mp member with early | last
        · exact ih (n / 10) (by omega) early
        · simp at last
          omega

end Digits

/-- The decimal text of an integer. -/
def decimalChars (n : Int) : List Char :=
  if n < 0 then '-' :: Digits.chars (Digits.ofNat n.natAbs)
  else Digits.chars (Digits.ofNat n.natAbs)

end Audience
