import Mathlib.Algebra.Order.Field.Power
import Mathlib.Data.Rat.Cast.Order
import ProbeGateway.Number.Binary64

/-!
# The order of finite numbers

A finite number has a value among the fractions (`Binary64.value?`), and comparing two of them
compares the values (`Binary64.le_iff`): both are scaled to one unit before.
-/

namespace ProbeGateway.Binary64

/-- The value of a finite number. -/
def value? : Binary64 → Option ℚ
  | finite negative significand exponent =>
    some ((if negative then -(significand : ℚ) else significand) * 2 ^ exponent)
  | _ => none

theorem pow2_eq_zpow {e : Int} (h : 0 ≤ e) : (pow2 e : ℚ) = 2 ^ e := by
  obtain ⟨n, rfl⟩ := Int.eq_ofNat_of_zero_le h
  show ((2 ^ n : Nat) : ℚ) = 2 ^ (n : ℤ)
  rw [zpow_natCast, Nat.cast_pow, Nat.cast_ofNat]

/-- A number in whole units has the value it had. -/
theorem scaled_value {negative : Bool} {significand : Nat} {exponent unit : Int}
    (h : unit ≤ exponent) :
    (scaled negative significand exponent unit : ℚ) * 2 ^ unit =
      (if negative then -(significand : ℚ) else significand) * 2 ^ exponent := by
  have hpower : (pow2 (exponent - unit) : ℚ) * 2 ^ unit = 2 ^ exponent := by
    rw [pow2_eq_zpow (by omega), ← zpow_add₀ two_ne_zero, Int.sub_add_cancel]
  unfold scaled
  cases negative
  · simp only [Bool.false_eq_true, if_false]
    push_cast
    rw [mul_assoc, hpower]
  · simp only [if_true]
    push_cast
    rw [neg_mul, mul_assoc, hpower, neg_mul]

/-- **Finite numbers are compared by their values.** -/
theorem le_iff {x y : Binary64} {p q : ℚ} (hx : x.value? = some p) (hy : y.value? = some q) :
    x.le y = true ↔ p ≤ q := by
  cases x with
  | nan => cases hx
  | infinity negative => cases hx
  | finite s m e =>
    cases y with
    | nan => cases hy
    | infinity negative => cases hy
    | finite s' m' e' =>
      cases hx
      cases hy
      have hunit : (0 : ℚ) < 2 ^ min e e' := zpow_pos two_pos _
      rw [← scaled_value (min_le_left e e'), ← scaled_value (min_le_right e e'),
        mul_le_mul_iff_left₀ hunit, Int.cast_le, le]
      exact decide_eq_true_iff

end ProbeGateway.Binary64
