import Mathlib.Algebra.Group.Nat.Defs
import Mathlib.Data.Nat.Notation
import Mathlib.Tactic.Common

/-!
# Decimals and rounded quotients

What `decimal.Decimal` does in its default context: a product is rounded half to even at 28 digits,
and an adjusted exponent above 999999 overflows. The two roundings of non-negative quantities, of a
quotient of integers and of a decimal to an integer, take the same three modes.
-/

namespace AidnSpec.Base

open Nat

/-- `ROUND_DOWN`, `ROUND_UP` and `ROUND_HALF_EVEN`. -/
inductive Rounding where
  | down
  | up
  | halfEven
  deriving DecidableEq

/-- A quotient of natural numbers, rounded to one. -/
def roundRatio (numerator denominator : ℕ) (mode : Rounding) : ℕ :=
  let quotient := numerator / denominator
  let remainder := numerator % denominator
  if mode = .down ∨ remainder = 0 then quotient
  else if mode = .up then quotient + 1
  else if remainder * 2 < denominator then quotient
  else if denominator < remainder * 2 then quotient + 1
  else if quotient % 2 = 0 then quotient else quotient + 1

/-- A rounded quotient does not fall when its numerator rises. -/
theorem roundRatio_mono {m n denominator : ℕ} (mode : Rounding) (h : m ≤ n) :
    roundRatio m denominator mode ≤ roundRatio n denominator mode := by
  have hquotient : m / denominator ≤ n / denominator := Nat.div_le_div_right h
  have hm := div_add_mod m denominator
  have hn := div_add_mod n denominator
  unfold roundRatio
  dsimp only
  by_cases hsame : m / denominator = n / denominator
  · rw [hsame] at hm ⊢
    cases mode <;> simp only [reduceCtorEq, true_or, false_or, if_true, if_false, Nat.le_refl]
    all_goals split_ifs <;> omega
  · split_ifs <;> omega

theorem roundRatio_mul_self {denominator : ℕ} (hpos : 0 < denominator) (n : ℕ) (mode : Rounding) :
    roundRatio (n * denominator) denominator mode = n := by
  simp [roundRatio, Nat.mul_div_cancel n hpos]

/-- Number of decimal digits. -/
def digitCount (n : ℕ) : ℕ := (Nat.toDigits 10 n).length

def contextRound (n : ℕ) : ℕ :=
  roundRatio n (10 ^ (digitCount n - 28)) .halfEven * 10 ^ (digitCount n - 28)

theorem contextRound_mono {m n : ℕ} (h : m ≤ n) : contextRound m ≤ contextRound n := by
  have hdigits (p : ℕ) {k : ℕ} (hk : 0 < k) : digitCount p ≤ k ↔ p < 10 ^ k :=
    length_toDigits_le_iff (by decide) hk
  have hcount : digitCount m ≤ digitCount n :=
    (hdigits m length_toDigits_pos).mpr
      (Nat.lt_of_le_of_lt h ((hdigits n Nat.length_toDigits_pos).mp (Nat.le_refl _)))
  have hexact (k q : ℕ) : roundRatio (q * 10 ^ k) (10 ^ k) .halfEven = q :=
    roundRatio_mul_self (Nat.pow_pos (by decide)) q .halfEven
  unfold contextRound
  generalize hi : digitCount m - 28 = i
  generalize hj : digitCount n - 28 = j
  by_cases hsame : i = j
  · subst hsame
    exact mul_le_mul_right _ (roundRatio_mono _ h)
  · -- one is below a power of ten and the other is not
    have hbelow : m ≤ 10 ^ 28 * 10 ^ i := by
      rw [← pow_add]
      exact Nat.le_of_lt ((hdigits m (by omega)).mp (by omega))
    have habove : 10 ^ 27 * 10 ^ j ≤ n := by
      rw [← pow_add]
      exact Nat.not_lt.mp (mt (hdigits n (by omega)).mpr (by omega))
    calc roundRatio m (10 ^ i) .halfEven * 10 ^ i
        ≤ 10 ^ 28 * 10 ^ i := mul_le_mul_right _ (hexact i (10 ^ 28) ▸ roundRatio_mono _ hbelow)
      _ ≤ 10 ^ 27 * 10 ^ j := by
          rw [← pow_add, ← pow_add]
          exact Nat.pow_le_pow_right (by decide) (by omega)
      _ ≤ roundRatio n (10 ^ j) .halfEven * 10 ^ j :=
          mul_le_mul_right _ (hexact j (10 ^ 27) ▸ roundRatio_mono _ habove)

/-- A finite `Decimal`. -/
structure Decimal where
  negative : Bool
  coefficient : ℕ
  exponent : Int
  deriving DecidableEq

namespace Decimal

/-- `Decimal(n)`, which is exact. -/
def ofInt (n : Int) : Decimal := ⟨n < 0, n.natAbs, 0⟩

/-- `x < 0`. -/
def isNegative (x : Decimal) : Bool := x.negative && x.coefficient ≠ 0

/-- `x * y`; `none` stands for the `Overflow` signal. -/
def mul (x y : Decimal) : Option Decimal :=
  let coefficient := x.coefficient * y.coefficient
  let excess := digitCount coefficient - 28
  let rounded := if excess = 0 then coefficient else roundRatio coefficient (10 ^ excess) .halfEven
  let exponent := x.exponent + y.exponent + excess
  if rounded ≠ 0 ∧ 999999 < exponent + digitCount rounded - 1 then none
  else some ⟨x.negative != y.negative, rounded, exponent⟩

/-- `int(x.to_integral_value(rounding=mode))` of a decimal that is not negative. -/
def toIntegral (x : Decimal) (mode : Rounding) : ℕ :=
  if 0 ≤ x.exponent then x.coefficient * 10 ^ x.exponent.toNat
  else roundRatio x.coefficient (10 ^ x.exponent.natAbs) mode

/-- The integer of a product of two integers. -/
theorem toIntegral_mul_ofInt {m n : Int} {x : Decimal} (h : (ofInt m).mul (ofInt n) = some x)
    (mode : Rounding) : x.toIntegral mode = contextRound (m.natAbs * n.natAbs) := by
  simp only [mul, ofInt, Int.zero_add] at h
  obtain ⟨-, h⟩ := Option.ite_none_left_eq_some.mp h
  cases h
  rw [toIntegral, if_pos (Int.natCast_nonneg _), Int.toNat_natCast, contextRound]
  by_cases hexcess : digitCount (m.natAbs * n.natAbs) - 28 = 0
  · simp [hexcess, roundRatio, mod_one]
  · simp [hexcess]

theorem negative_of_mul {x y z : Decimal} (h : x.mul y = some z) :
    z.negative = (x.negative != y.negative) := by
  obtain ⟨-, h⟩ := Option.ite_none_left_eq_some.mp h
  cases h
  rfl

theorem toIntegral_of_zero {x : Decimal} (h : x.coefficient = 0) (mode : Rounding) :
    x.toIntegral mode = 0 := by
  simp [toIntegral, roundRatio, h]

/-- Two and a half is rounded to two, and a product of thirty digits to twenty-eight of them. -/
example : (⟨false, 25, -1⟩ : Decimal).toIntegral .halfEven = 2 ∧
    (⟨false, 10 ^ 14 + 1, 0⟩ : Decimal).mul ⟨false, 10 ^ 15 + 1, 0⟩ =
      some ⟨false, 1000000000000011 * 10 ^ 12, 2⟩ := by
  decide

end Decimal

end AidnSpec.Base
