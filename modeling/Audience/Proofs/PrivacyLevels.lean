import Mathlib.Algebra.Order.Floor.Ring
import Mathlib.Data.Rat.Floor
import Mathlib.Tactic.Linarith
import Mathlib.Tactic.Positivity
import Mathlib.Tactic.NormNum
import Audience.Proofs.RejectedValues

namespace Audience

/-! Levels of privacy as exact numbers.

A rule on privacy asks for a level, which may have a fraction and may be larger than any level that
a caller can have.  It is brought into the range of callers' levels before it is compared, which
makes a difference to one comparison only: above the range the largest level is enough.
-/

/-- A fraction rounded toward zero. -/
def towardZero (value : ℚ) : ℤ := if value < 0 then ⌈value⌉ else ⌊value⌋

namespace Number

/-- What a finite number stands for. -/
def exact (x : Number) : ℚ :=
  (if x.negative then -1 else 1) * (x.magnitude / unitsPerOne)

variable {x : Number} {bound : Int64} {n : ℤ}

theorem floor_magnitude (x : Number) :
    ⌊(x.magnitude : ℚ) / unitsPerOne⌋ = ((x.magnitude / unitsPerOne : ℕ) : ℤ) := by
  exact_mod_cast Rat.floor_natCast_div_natCast x.magnitude unitsPerOne

theorem wholePart_eq_towardZero (x : Number) : x.wholePart = towardZero x.exact := by
  have nonnegative : (0 : ℚ) ≤ x.magnitude / unitsPerOne := by positivity
  have floor := floor_magnitude x
  cases negative : x.negative with
  | false =>
      simp only [wholePart, exact, negative, Bool.false_eq_true, if_false, one_mul]
      rw [towardZero, if_neg (not_lt.mpr nonnegative), floor]
  | true =>
      simp only [wholePart, exact, negative, if_true, neg_one_mul]
      by_cases zero : (x.magnitude : ℚ) / unitsPerOne = 0
      · rw [zero, Int.floor_zero] at floor
        rw [← floor, zero]
        rfl
      · have positive := lt_of_le_of_ne nonnegative (Ne.symm zero)
        rw [towardZero, if_pos (by linarith), Int.ceil_neg, floor]

theorem clampToInt64_le_iff : clampToInt64 n ≤ bound ↔
    n ≤ bound.toInt ∨ Int64.maxValue.toInt < n ∧ bound = Int64.maxValue := by
  have lower : Int64.minValue.toInt ≤ bound.toInt := Int64.minValue_le_toInt bound
  have upper : bound.toInt ≤ Int64.maxValue.toInt := Int64.toInt_le bound
  rw [Int64.le_iff_toInt_le, ← Int64.toInt_inj, clampToInt64]
  split
  · next below => exact iff_of_true lower (.inl (by omega))
  · next reached =>
      split
      · next above => omega
      · next within =>
          rw [not_lt] at reached within
          rw [Int64.toInt_ofInt_of_le reached (Int.lt_add_one_of_le within)]
          omega

/-- Brought into the range, a finite number is below the same bounds, and above the range below the
largest bound as well. -/
theorem toInt64_le_iff (finite : x.isFinite = true) : x.toInt64 ≤ bound ↔
    towardZero x.exact ≤ bound.toInt ∨
      Int64.maxValue.toInt < towardZero x.exact ∧ bound = Int64.maxValue := by
  rw [toInt64, if_pos finite, clampToInt64_le_iff, wholePart_eq_towardZero]

theorem lt_towardZero_iff {value : ℚ} (nonnegative : 0 ≤ n) :
    n < towardZero value ↔ (n + 1 : ℚ) ≤ value := by
  rw [towardZero, ← Int.add_one_le_iff]
  split
  · next negative =>
      have low : ⌈value⌉ ≤ 0 := Int.ceil_le.mpr (by exact_mod_cast negative.le)
      have bound : (0 : ℚ) ≤ n := by exact_mod_cast nonnegative
      exact iff_of_false (by omega) (by linarith)
  · rw [Int.le_floor]
    norm_cast

end Number

namespace RuleKind

/-- A caller's level is at least the whole part of what is asked for. -/
def Reaches (caller : Caller) (level : Number) : Prop :=
  ∃ identity, caller.identity = some identity ∧
    towardZero level.exact ≤ identity.privacyLevel.toInt

/-- More is asked for than any caller can have, and the caller has the most that there is. -/
def Tops (caller : Caller) (level : Number) : Prop :=
  ∃ identity, caller.identity = some identity ∧ identity.privacyLevel = Int64.maxValue ∧
    2 ^ 63 ≤ level.exact

variable {caller : Caller} {level : Number}

theorem maxValue_lt_towardZero_iff {value : ℚ} :
    Int64.maxValue.toInt < towardZero value ↔ 2 ^ 63 ≤ value := by
  rw [Number.lt_towardZero_iff (by decide)]
  norm_num [Int64.toInt_maxValue]

theorem Tops.not_reaches (tops : Tops caller level) : ¬Reaches caller level := by
  obtain ⟨identity, known, largest, above⟩ := tops
  rintro ⟨other, sameKnown, enough⟩
  obtain rfl : identity = other := Option.some.inj (known.symm.trans sameKnown)
  rw [largest] at enough
  exact absurd enough (not_le.mpr (maxValue_lt_towardZero_iff.mpr above))

/-- A rule on privacy lets those callers through whose level is at least the whole part of what is
asked for, and wrongly those of the largest level where more than that is asked for. -/
theorem lets_privacy_iff_reaches_or_tops (finite : level.isFinite = true) :
    (RuleKind.privacy.lets caller (.number level) = true ↔
        Reaches caller level ∨ Tops caller level) ∧
      ¬(Reaches caller level ∧ Tops caller level) := by
  refine ⟨?_, fun both => both.2.not_reaches both.1⟩
  rw [lets_privacy_iff]
  constructor
  · rintro ⟨asked, identity, same, known, reached⟩
    cases same
    rcases (Number.toInt64_le_iff finite).mp reached with enough | ⟨above, largest⟩
    · exact .inl ⟨identity, known, enough⟩
    · exact .inr ⟨identity, known, largest, maxValue_lt_towardZero_iff.mp above⟩
  · rintro (⟨identity, known, enough⟩ | ⟨identity, known, largest, above⟩)
    · exact ⟨level, identity, rfl, known, (Number.toInt64_le_iff finite).mpr (.inl enough)⟩
    · refine ⟨level, identity, rfl, known, (Number.toInt64_le_iff finite).mpr (.inr ?_)⟩
      exact ⟨maxValue_lt_towardZero_iff.mpr above, largest⟩

/-- The smallest number above all levels. -/
def unreachable : Number := .ofNat Number.signBit

def topCaller : Caller :=
  Caller.anonymous.withIdentity ⟨none, Int64.maxValue, .ofList []⟩

theorem exact_unreachable : unreachable.exact = 2 ^ 63 := by
  have positive : unreachable.negative = false := by decide +kernel
  have magnitude : unreachable.magnitude = 2 ^ 63 * Number.unitsPerOne := by decide +kernel
  have units : (Number.unitsPerOne : ℚ) ≠ 0 := by exact_mod_cast (by decide +kernel)
  rw [Number.exact, positive, magnitude, Nat.cast_mul, mul_div_assoc, div_self units]
  norm_num

theorem topCaller_tops_unreachable :
    unreachable.isFinite = true ∧ Tops topCaller unreachable ∧
      RuleKind.privacy.lets topCaller (.number unreachable) = true := by
  have finite : unreachable.isFinite = true := by decide +kernel
  have tops : Tops topCaller unreachable := ⟨_, rfl, rfl, exact_unreachable.ge⟩
  exact ⟨finite, tops, (lets_privacy_iff_reaches_or_tops finite).1.mpr (.inr tops)⟩

/-- The largest level is let through where one more is asked for. -/
theorem topCaller_lets_unreachable :
    RuleKind.privacy.lets topCaller (.number unreachable) = true ∧
      ¬Reaches topCaller unreachable := by
  have tops : Tops topCaller unreachable := ⟨_, rfl, rfl, exact_unreachable.ge⟩
  exact ⟨by decide +kernel, tops.not_reaches⟩

end RuleKind

end Audience
