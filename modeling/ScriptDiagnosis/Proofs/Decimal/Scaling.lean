/-
  ScriptDiagnosis/Proofs/Decimal/Scaling.lean
  ===========================================
  A binary number times a power of two.  As long as there is a finite number that is the product,
  it is the product exactly; otherwise the product is at least `2 ^ 1024`, which is beyond every
  finite number, and infinity stands for it (`isScaled_scale`).  Nothing is rounded, because
  bringing a number to its smallest exponent moves factors of two between mantissa and power.

  A length of time is doubled in the same way, or exactly if it is a whole number of seconds.
-/
import Mathlib.Algebra.Order.Field.Power
import Mathlib.Data.Rat.Cast.Order
import Mathlib.Tactic.Positivity
import ScriptDiagnosis.Decimal.Seconds

namespace ScriptDiagnosis

namespace Binary64

/-- The rational number that a finite one is. -/
def value? : Binary64 → Option ℚ
  | finite negative mantissa exponent =>
    some ((if negative then -1 else 1) * (mantissa * 2 ^ exponent))
  | infinite _ | notANumber => none

/-- The second number is the first times `2 ^ k`. -/
inductive IsScaled (k : Nat) : Binary64 → Binary64 → Prop
  | exact {x y : Binary64} {q : ℚ} (hx : x.value? = some q) (hy : y.value? = some (q * 2 ^ k)) :
      IsScaled k x y
  | tooLarge {negative : Bool} {mantissa : Nat} {exponent : Int}
      (hlarge : (2 : ℚ) ^ 1024 ≤ mantissa * 2 ^ exponent * 2 ^ k) :
      IsScaled k (finite negative mantissa exponent) (infinite negative)
  | infinite (negative : Bool) : IsScaled k (infinite negative) (infinite negative)
  | notANumber : IsScaled k notANumber notANumber

theorem shift_value (mantissa shift : Nat) (exponent : Int) :
    ((mantissa * Nat.pow 2 shift : Nat) : ℚ) * 2 ^ (exponent - shift) =
      mantissa * 2 ^ exponent := by
  have hpower : ((Nat.pow 2 shift : Nat) : ℚ) = 2 ^ (shift : Int) := by
    rw [Nat.pow_eq, Nat.cast_pow, Nat.cast_ofNat, zpow_natCast]
  rw [Nat.cast_mul, hpower, mul_assoc, ← zpow_add₀ two_ne_zero]
  congr 2
  omega

/-- With as many factors of two as its mantissa has room for, a number reaches the top digit. -/
theorem precision_le_shift {mantissa : Nat} (h : mantissa ≠ 0) :
    2 ^ 52 ≤ mantissa * Nat.pow 2 (precision - 1 - mantissa.log2) := by
  have hlog : 2 ^ mantissa.log2 ≤ mantissa := Nat.log2_self_le h
  calc 2 ^ 52 ≤ 2 ^ (mantissa.log2 + (precision - 1 - mantissa.log2)) := by
        apply Nat.pow_le_pow_right (by decide)
        show 52 ≤ mantissa.log2 + (53 - 1 - mantissa.log2)
        omega
    _ = 2 ^ mantissa.log2 * 2 ^ (precision - 1 - mantissa.log2) := Nat.pow_add _ _ _
    _ ≤ mantissa * Nat.pow 2 (precision - 1 - mantissa.log2) := Nat.mul_le_mul_right _ hlog

/-- What is put together with a larger exponent is that power of two times the number, or too
    large. -/
theorem isScaled_ofParts (negative : Bool) (mantissa k : Nat) (exponent : Int) :
    IsScaled k (finite negative mantissa exponent) (ofParts negative mantissa (exponent + k)) := by
  have hscaled : (mantissa : ℚ) * 2 ^ (exponent + k) = mantissa * 2 ^ exponent * 2 ^ k := by
    rw [zpow_add₀ two_ne_zero, zpow_natCast, mul_assoc]
  unfold ofParts
  split
  · next hzero =>
    refine .exact rfl ?_
    simp [value?, hzero]
  · next hne =>
    dsimp only
    generalize hshift : min (precision - 1 - mantissa.log2)
      (exponent + k - leastExponent).toNat = shift
    have hvalue := shift_value mantissa shift (exponent + k)
    split
    · next hmost =>
      -- the exponent stays above its least value, so the mantissa was filled up
      have hfull : shift = precision - 1 - mantissa.log2 := by
        simp only [leastExponent, mostExponent] at hshift hmost
        omega
      refine .tooLarge ?_
      have htop : (2 : ℚ) ^ (52 : Nat) ≤ ((mantissa * Nat.pow 2 shift : Nat) : ℚ) := by
        rw [hfull]
        exact_mod_cast precision_le_shift hne
      have hexponent : (2 : ℚ) ^ (972 : Int) ≤ 2 ^ (exponent + k - shift) := by
        apply zpow_le_zpow_right₀ one_le_two
        simp only [mostExponent] at hmost
        omega
      calc (2 : ℚ) ^ 1024 = 2 ^ (52 : Nat) * 2 ^ (972 : Int) := by
            rw [← zpow_natCast, ← zpow_natCast, ← zpow_add₀ two_ne_zero]
            rfl
        _ ≤ ((mantissa * Nat.pow 2 shift : Nat) : ℚ) * 2 ^ (exponent + k - shift) :=
            mul_le_mul htop hexponent (by positivity) (by positivity)
        _ = mantissa * 2 ^ exponent * 2 ^ k := by rw [hvalue, hscaled]
    · refine .exact rfl ?_
      rw [value?, hvalue, hscaled, ← mul_assoc]

/-- **Doubling so many times multiplies by that power of two,** or runs out of room. -/
theorem isScaled_scale (x : Binary64) (k : Nat) : IsScaled k x (x.scale k) := by
  cases x with
  | finite negative mantissa exponent => exact isScaled_ofParts negative mantissa k exponent
  | infinite negative => exact .infinite negative
  | notANumber => exact .notANumber

end Binary64

namespace Seconds

/-- The second length is the first times `2 ^ k`, and is kept as the first is. -/
inductive IsScaled (k : Nat) : Seconds → Seconds → Prop
  | float {x y : Binary64} (h : Binary64.IsScaled k x y) : IsScaled k (.float x) (.float y)
  | whole (n : Int) : IsScaled k (.whole n) (.whole (n * 2 ^ k))

theorem isScaled_scale (x : Seconds) (k : Nat) : IsScaled k x (x.scale k) := by
  cases x with
  | float x => exact .float (Binary64.isScaled_scale x k)
  | whole n =>
    have hpower : ((Nat.pow 2 k : Nat) : Int) = 2 ^ k := by
      rw [Nat.pow_eq, Nat.cast_pow, Nat.cast_ofNat]
    rw [scale, hpower]
    exact .whole n

end Seconds
end ScriptDiagnosis
