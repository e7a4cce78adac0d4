import ApiProbe.Decimal.Exact
import Mathlib.Algebra.Group.Nat.Defs
import Mathlib.Order.Nat
import Mathlib.Tactic.SplitIfs

/-!
Integers as floating-point numbers. An integer is rounded to 53 significant bits, a tie to the even
value. Rounding keeps the order of integers, but different integers can come to one value; up to
`2 ^ 53` none of them do.
-/
namespace ApiProbe.Exact

/-- A natural number rounded to 53 significant bits. -/
def rounded (size : Nat) : Nat := roundShift size (size.log2 - 52) * 2 ^ (size.log2 - 52)

/-- The floating-point number nearest to an integer, which is an integer again. -/
def nearest (n : Int) : Int := if n < 0 then -(rounded n.natAbs : Int) else rounded n.natAbs

section Rounding
variable {n m shift : Nat}

/-- Rounding goes to one of the two multiples around a number. -/
theorem roundShift_bounds (n shift : Nat) :
    n / 2 ^ shift ≤ roundShift n shift ∧ roundShift n shift ≤ n / 2 ^ shift + 1 := by
  simp only [roundShift, Nat.pow_eq]
  split
  · omega
  · split <;> omega

theorem roundShift_mono (le : n ≤ m) (shift : Nat) : roundShift n shift ≤ roundShift m shift := by
  have quotients : n / 2 ^ shift ≤ m / 2 ^ shift := Nat.div_le_div_right le
  rcases Nat.lt_or_eq_of_le quotients with below | same
  · exact (roundShift_bounds n shift).2.trans (Nat.le_trans below (roundShift_bounds m shift).1)
  · -- Between the same two multiples the larger number leaves the larger remainder.
    have remainders : n % 2 ^ shift ≤ m % 2 ^ shift := by
      have first := Nat.div_add_mod n (2 ^ shift)
      have second := Nat.div_add_mod m (2 ^ shift)
      rw [same] at first
      omega
    simp only [roundShift, Nat.pow_eq, same]
    split_ifs <;> omega

theorem rounded_of_small (small : n < 2 ^ 53) : rounded n = n := by
  have shift : n.log2 - 52 = 0 := by
    rcases Nat.eq_zero_or_pos n with rfl | positive
    · decide
    · have := (Nat.log2_lt (Nat.ne_of_gt positive)).mpr small
      omega
  rw [rounded, shift, roundShift]
  simp [Nat.mod_one]

/-- Rounding does not leave the powers of two around a number. -/
theorem rounded_between (positive : n ≠ 0) :
    2 ^ n.log2 ≤ rounded n ∧ rounded n ≤ 2 ^ (n.log2 + 1) := by
  have low : 2 ^ n.log2 ≤ n := Nat.log2_self_le positive
  have high : n < 2 ^ (n.log2 + 1) := Nat.lt_log2_self
  rcases Nat.lt_or_ge n.log2 53 with small | large
  · have own : rounded n = n :=
      rounded_of_small (Nat.lt_of_lt_of_le high (Nat.pow_le_pow_right (by decide) small))
    rw [own]
    exact ⟨low, high.le⟩
  · obtain ⟨shift, split⟩ := Nat.exists_eq_add_of_le (show 52 ≤ n.log2 by omega)
    have unit : 0 < 2 ^ shift := Nat.two_pow_pos shift
    have lower : 2 ^ n.log2 = 2 ^ 52 * 2 ^ shift := by rw [split, Nat.pow_add]
    have upper : 2 ^ (n.log2 + 1) = 2 ^ 53 * 2 ^ shift := by
      rw [split, ← Nat.pow_add]
      congr 1
      omega
    have step : n.log2 - 52 = shift := by omega
    have bounds := roundShift_bounds n shift
    rw [rounded, step, lower, upper]
    rw [lower] at low
    rw [upper] at high
    have above : 2 ^ 52 ≤ n / 2 ^ shift := (Nat.le_div_iff_mul_le unit).mpr low
    have below : n / 2 ^ shift < 2 ^ 53 := (Nat.div_lt_iff_lt_mul unit).mpr high
    exact ⟨Nat.mul_le_mul_right _ (above.trans bounds.1), Nat.mul_le_mul_right _ (by omega)⟩

theorem rounded_mono (le : n ≤ m) : rounded n ≤ rounded m := by
  rcases Nat.eq_zero_or_pos n with rfl | positive
  · rw [rounded_of_small (by decide)]
    exact Nat.zero_le _
  have first : n ≠ 0 := Nat.ne_of_gt positive
  have second : m ≠ 0 := by omega
  have logs : n.log2 ≤ m.log2 :=
    (Nat.le_log2 second).mpr ((Nat.log2_self_le first).trans le)
  rcases Nat.lt_or_eq_of_le logs with below | same
  · calc rounded n
      _ ≤ 2 ^ (n.log2 + 1) := (rounded_between first).2
      _ ≤ 2 ^ m.log2 := Nat.pow_le_pow_right (by decide) below
      _ ≤ rounded m := (rounded_between second).1
  · rw [rounded, rounded, same]
    exact Nat.mul_le_mul_right _ (roundShift_mono le _)

end Rounding

variable {a b : Int}

theorem nearest_mono (le : a ≤ b) : nearest a ≤ nearest b := by
  unfold nearest
  split
  · rename_i below
    split
    · have := rounded_mono (show b.natAbs ≤ a.natAbs by omega)
      omega
    · omega
  · rename_i above
    rw [if_neg (by omega)]
    exact Int.ofNat_le.mpr (rounded_mono (by omega))

/-- Integers of up to 53 bits are floating-point numbers. -/
theorem nearest_of_small (small : a.natAbs ≤ 2 ^ 53) : nearest a = a := by
  have own : rounded a.natAbs = a.natAbs := by
    rcases Nat.lt_or_eq_of_le small with below | same
    · exact rounded_of_small below
    · rw [same]
      decide +kernel
  rw [nearest, own]
  split <;> omega

/-- As floating-point numbers, integers stand in the order of the numbers nearest to them. -/
theorem compare?_ofInt (a b : Int) :
    (ofInt a).compare? (ofInt b) = some (compare (nearest a) (nearest b)) := by
  have value (n : Int) : scaled 0 (decide (n < 0)) (roundShift n.natAbs (n.natAbs.log2 - 52))
      (n.natAbs.log2 - 52 : Nat) = nearest n := by
    simp only [scaled, nearest, rounded, decide_eq_true_eq]
    rfl
  have base : max (-((a.natAbs.log2 - 52 : Nat) : Int)).toNat
      (-((b.natAbs.log2 - 52 : Nat) : Int)).toNat = 0 := by omega
  simp only [ofInt, compare?, base, value]

end ApiProbe.Exact
