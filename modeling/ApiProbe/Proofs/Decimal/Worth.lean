import ApiProbe.Decimal.Exact
import Mathlib.Algebra.Order.Field.Power
import Mathlib.Algebra.Order.Field.Rat
import Mathlib.Tactic.Positivity
import Mathlib.Tactic.NormNum

/-!
What floating-point numbers are worth. A finite number has a rational value, and it counts as whole
exactly if that value is an integer.
-/
namespace ApiProbe.Exact

/-- The number that a finite value is. -/
def value? : Exact → Option ℚ
  | .finite negative mantissa exponent =>
    let size := (mantissa : ℚ) * 2 ^ exponent
    some (if negative then -size else size)
  | _ => none

theorem isSome_value? (x : Exact) : x.value?.isSome = x.isFinite := by
  cases x <;> rfl

section Whole
variable {mantissa n : ℕ}

/-- A natural number that is halved stays whole if it is a multiple. -/
theorem halved_eq_iff {shift : ℕ} :
    (mantissa : ℚ) * 2 ^ (-(shift : ℤ)) = n ↔
      mantissa % 2 ^ shift = 0 ∧ mantissa / 2 ^ shift = n := by
  have unit : (2 : ℚ) ^ shift ≠ 0 := pow_ne_zero shift two_ne_zero
  rw [zpow_neg, zpow_natCast, mul_inv_eq_iff_eq_mul₀ unit]
  constructor
  · intro same
    have whole : mantissa = n * 2 ^ shift := by exact_mod_cast same
    rw [whole]
    exact ⟨Nat.mul_mod_left n (2 ^ shift), Nat.mul_div_cancel n (Nat.two_pow_pos shift)⟩
  · rintro ⟨multiple, rfl⟩
    have whole : mantissa = mantissa / 2 ^ shift * 2 ^ shift :=
      (Nat.div_mul_cancel (Nat.dvd_of_mod_eq_zero multiple)).symm
    exact_mod_cast whole

/-- A finite value without its sign is an integer if no fraction is left of its mantissa. -/
theorem scaled_eq_iff {exponent : ℤ} :
    (mantissa : ℚ) * 2 ^ exponent = n ↔
      (if 0 ≤ exponent then some (mantissa * Nat.pow 2 exponent.toNat)
        else if mantissa % Nat.pow 2 (-exponent).toNat == 0 then
          some (mantissa / Nat.pow 2 (-exponent).toNat)
        else none) = some n := by
  by_cases up : 0 ≤ exponent
  · obtain ⟨shift, rfl⟩ := Int.eq_ofNat_of_zero_le up
    rw [if_pos up, Option.some.injEq, zpow_natCast]
    exact_mod_cast Iff.rfl
  · obtain ⟨shift, rfl⟩ : ∃ shift : ℕ, exponent = -(shift : ℤ) :=
      ⟨(-exponent).toNat, by omega⟩
    rw [if_neg up, neg_neg, Int.toNat_natCast, halved_eq_iff]
    simp

end Whole

/-- A floating-point number is whole exactly if its value is an integer, and it is that integer. -/
theorem toInt?_eq_some_iff {x : Exact} {n : ℤ} : x.toInt? = some n ↔ x.value? = some (n : ℚ) := by
  cases x with
  | finite negative mantissa exponent =>
    simp only [toInt?, value?, Option.map_eq_some_iff, ← scaled_eq_iff, Option.some.injEq]
    have positive : (0 : ℚ) ≤ mantissa * 2 ^ exponent := by positivity
    constructor
    · rintro ⟨size, same, rfl⟩
      rw [same]
      cases negative <;> simp
    · intro same
      cases negative with
      | false =>
        simp only [Bool.false_eq_true, if_false] at same
        have above : 0 ≤ n := by
          rw [same] at positive
          exact_mod_cast positive
        obtain ⟨size, rfl⟩ := Int.eq_ofNat_of_zero_le above
        exact ⟨size, by exact_mod_cast same, rfl⟩
      | true =>
        simp only [if_true] at same
        have below : 0 ≤ -n := by
          rw [neg_eq_iff_eq_neg.mp same] at positive
          exact_mod_cast positive
        obtain ⟨size, opposite⟩ := Int.eq_ofNat_of_zero_le below
        obtain rfl := neg_eq_iff_eq_neg.mp opposite
        refine ⟨size, ?_, rfl⟩
        simpa using same
  | _ => simp [toInt?, value?]

end ApiProbe.Exact
