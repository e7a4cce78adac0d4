import ApiProbe.Proofs.Decimal.Written
import Mathlib.Tactic.Positivity

/-!
The floating-point number that digits and a power of ten stand for. Powers far outside the range of
floating-point numbers are settled by the number of digits alone, and rounding the exact value comes to the
same.
-/
namespace ApiProbe.Decimal
open Float.Model Float.Model.UnpackedFloat

/-- `mantissa · 10 ^ power`, rounded to the nearest floating-point number. -/
def ofPower (mantissa : Nat) (power : Int) : Float :=
  Float.ofScientific mantissa (decide (power < 0)) power.natAbs

/-- The value of what a decimal says. -/
def Numeral.value (n : Numeral) : Float :=
  let size := ofPower (Nat.ofDigitChars 10 n.digits 0) (n.exponent - n.places)
  if n.negative then -size else size

section Rounding
variable {sign : UnpackedFloat.Sign} {mantissa shift : Nat} {exponent : Int} {accuracy : Accuracy}

theorem mantissa_shiftRight (extended : ExtendedMantissa) (shift : Nat) :
    (extended >>> shift).mantissa = extended.mantissa / 2 ^ shift := by
  change (shift.repeat ExtendedMantissa.shiftRightOne extended).mantissa = _
  induction shift with
  | zero => simp [Nat.repeat]
  | succ shift ih =>
    rw [Nat.repeat, Nat.pow_succ, ← Nat.div_div_eq_div_mul, ← ih]
    rfl

theorem le_roundedMantissa (extended : ExtendedMantissa) :
    extended.mantissa ≤ extended.roundedMantissa := by
  obtain ⟨mantissa, roundBit, stickyBit⟩ := extended
  cases roundBit <;> cases stickyBit <;>
    simp [ExtendedMantissa.roundedMantissa, ExtendedMantissa.accuracy, Accuracy.roundToNearestEven]

theorem mantissa_ofMantissaAndAccuracy :
    (ExtendedMantissa.ofMantissaAndAccuracy mantissa accuracy).mantissa = mantissa := by
  cases accuracy with
  | exact => rfl
  | inexact order => cases order <;> rfl

theorem targetExponent_eq :
    Format.binary64.targetExponent exponent = max (exponent - 53) (-1074) := rfl

/-- A mantissa is not shifted beyond its first bit if that has a place among the floating-point numbers. -/
theorem shiftToTargetExponent_large (accuracy : Accuracy) (some_ : mantissa ≠ 0)
    (large : 0 ≤ mantissa.log2 + exponent) :
    let shifted := shiftToTargetExponent .binary64 mantissa exponent accuracy
    shifted.1.mantissa ≠ 0 ∧ exponent ≤ shifted.2 ∧ mantissa.log2 + exponent - 52 ≤ shifted.2 := by
  simp only [shiftToTargetExponent, shiftToExponent, mantissa_shiftRight, mantissa_ofMantissaAndAccuracy,
    targetExponent_eq, totalExponent]
  generalize chosen : (max ((mantissa.log2 : Int) + 1 + exponent - 53) (-1074) - exponent).toNat = shift
  have short : shift ≤ mantissa.log2 := by omega
  have room : 2 ^ shift ≤ mantissa :=
    (Nat.pow_le_pow_right (by decide) short).trans (Nat.log2_self_le some_)
  have kept : mantissa / 2 ^ shift ≠ 0 := (Nat.div_pos room (Nat.two_pow_pos shift)).ne'
  omega

theorem pack_finite_large (large : 972 ≤ exponent) (some_ : 0 < mantissa) :
    UnpackedFloat.pack .binary64 (.finite sign mantissa exponent some_) =
      UnpackedFloat.pack .binary64 (.infinity sign) := by
  have beyond : 2 ^ 11 ≤ (exponent + 1023 + 52).toNat + 1 := by omega
  exact if_pos beyond

theorem pack_congr {first second : UnpackedFloat}
    (same : UnpackedFloat.pack .binary64 first = UnpackedFloat.pack .binary64 second) :
    Float.Model.pack first = Float.Model.pack second :=
  (Float.Model.mk.injEq ..).mpr (congrArg UInt64.ofBitVec same)

/-- What has a bit beyond the largest floating-point number becomes infinite. -/
theorem pack_roundWithAccuracy_large (some_ : mantissa ≠ 0) (large : 1024 ≤ mantissa.log2 + exponent) :
    Float.Model.pack (roundWithAccuracy .binary64 sign mantissa exponent accuracy) =
      Float.Model.pack (.infinity sign) := by
  obtain ⟨kept, -, place⟩ :=
    shiftToTargetExponent_large accuracy some_ (show 0 ≤ mantissa.log2 + exponent by omega)
  generalize first : shiftToTargetExponent .binary64 mantissa exponent accuracy = shifted at kept place
  obtain ⟨extended, middle⟩ := shifted
  have rounded : extended.roundedMantissa ≠ 0 :=
    Nat.ne_of_gt ((Nat.pos_of_ne_zero kept).trans_le (le_roundedMantissa extended))
  -- Rounding up may carry into a further bit, so the mantissa is shifted a second time.
  obtain ⟨left, higher, -⟩ :=
    shiftToTargetExponent_large .exact rounded (show 0 ≤ extended.roundedMantissa.log2 + middle by omega)
  generalize second : shiftToTargetExponent .binary64 extended.roundedMantissa middle .exact = final
    at left higher
  obtain ⟨result, last⟩ := final
  have finite : roundWithAccuracy .binary64 sign mantissa exponent accuracy =
      .finite sign result.mantissa last (Nat.pos_of_ne_zero left) := by
    rw [roundWithAccuracy, first]
    dsimp only
    rw [second]
    exact dif_neg left
  rw [finite]
  exact pack_congr (pack_finite_large (by omega) _)

end Rounding

section Sizes
variable {n divisor shift : Nat}

/-- A number that is shifted to the left goes up by as many bits. -/
theorem log2_add_le (some_ : n ≠ 0) (le : n * 2 ^ shift ≤ divisor) : n.log2 + shift ≤ divisor.log2 := by
  have room : 0 < n * 2 ^ shift := Nat.mul_pos (Nat.pos_of_ne_zero some_) (Nat.two_pow_pos shift)
  rw [Nat.le_log2 (room.trans_le le).ne', Nat.pow_add]
  exact (Nat.mul_le_mul_right _ (Nat.log2_self_le some_)).trans le

theorem log2_div_add_le (kept : n / divisor ≠ 0) : (n / divisor).log2 + divisor.log2 ≤ n.log2 := by
  have some_ : divisor ≠ 0 := by
    rintro rfl
    exact kept (Nat.div_zero n)
  refine log2_add_le kept ?_
  exact (Nat.mul_le_mul_left _ (Nat.log2_self_le some_)).trans (Nat.div_mul_le_self n divisor)

theorem le_log2_ten_pow (power : Nat) : power ≤ (10 ^ power).log2 :=
  (Nat.le_log2 (by positivity)).mpr (Nat.pow_le_pow_left (by decide) power)

end Sizes

section Range
variable {mantissa power : Nat}

theorem ofScientific_slow {down : Bool} (slow : ¬(mantissa < 2 ^ 53 ∧ power ≤ 22)) :
    Float.ofScientific mantissa down power =
      .ofModel (.pack (UnpackedFloat.ofScientific .binary64 mantissa
        (if down then -power else power))) := by
  rw [Float.ofScientific, dif_neg slow, Int.negOfNat_eq]
  rfl

theorem ofModel_zero : Float.ofModel (.pack (.zero .positive)) = 0.0 := by rfl

theorem ofModel_infinity : Float.ofModel (.pack (.infinity .positive)) = 1.0 / 0.0 := by rfl

theorem ofScientific_zero (down : Bool) (power : Nat) : Float.ofScientific 0 down power = 0.0 := by
  rcases Nat.lt_or_ge 22 power with far | near
  · have zero (exponent : Int) : UnpackedFloat.ofScientific .binary64 0 exponent = .zero .positive := rfl
    rw [ofScientific_slow (by omega), zero, ofModel_zero]
  · have fast : ∀ down, ∀ power ≤ 22, Float.ofScientific 0 down power = 0.0 := by decide
    exact fast down power near

/-- A mantissa that is too large for the range is not shortened by its power of ten. -/
theorem ofScientific_up (some_ : mantissa ≠ 0) (large : 1024 ≤ (mantissa * 10 ^ power).log2) :
    Float.ofScientific mantissa false power = 1.0 / 0.0 := by
  have filled : mantissa * 10 ^ power ≠ 0 := by positivity
  have slow : ¬(mantissa < 2 ^ 53 ∧ power ≤ 22) := by
    rintro ⟨short, near⟩
    have scale : 10 ^ power ≤ 10 ^ 22 := Nat.pow_le_pow_right (by decide) near
    have small : mantissa * 10 ^ power < 2 ^ 127 :=
      (Nat.mul_le_mul short.le scale).trans_lt (by decide)
    have bits := (Nat.log2_lt filled).mpr small
    omega
  have infinite : Float.Model.pack (UnpackedFloat.ofScientific .binary64 mantissa power) =
      Float.Model.pack (.infinity .positive) := by
    rw [UnpackedFloat.ofScientific, dif_neg some_]
    by_cases beyond : (power : Int) > 2 ^ Format.binary64.exponentBits
    · rw [if_pos beyond]
    rw [if_neg beyond, if_neg (by omega), if_pos (Int.natCast_nonneg power)]
    have whole : mantissa <<< 53 * 10 ^ power = mantissa * 10 ^ power * 2 ^ 53 := by
      rw [Nat.shiftLeft_eq, Nat.mul_right_comm]
    have some_ : mantissa <<< 53 * 10 ^ power ≠ 0 := by
      rw [whole]
      positivity
    have bits : (mantissa * 10 ^ power).log2 + 53 ≤ (mantissa <<< 53 * 10 ^ power).log2 :=
      log2_add_le filled whole.ge
    refine pack_roundWithAccuracy_large some_ ?_
    change 1024 ≤ ((mantissa <<< 53 * 10 ^ power).log2 : Int) + (-53 + 0)
    omega
  rw [ofScientific_slow slow, if_neg Bool.false_ne_true, infinite, ofModel_infinity]

/-- Division by a power of ten. -/
theorem ofScientific_down (some_ : mantissa ≠ 0) (positive : 0 < power)
    (near : power ≤ mantissa.log2 + 2048) :
    UnpackedFloat.ofScientific .binary64 mantissa (-power) =
      let (quotient, exponent, accuracy) := divCore .binary64 mantissa 0 (10 ^ power) 0
      roundWithAccuracy .binary64 .positive quotient exponent accuracy := by
  have cut : (2 : Int) ^ Format.binary64.exponentBits = 2048 := rfl
  rw [UnpackedFloat.ofScientific, dif_neg some_, cut, if_neg (by omega), if_neg (by omega),
    if_neg (by omega)]
  cases power with
  | zero => cases positive
  | succ power => rfl

/-- The exponent of a quotient. -/
theorem divCore_eq (divisor : Nat) {shift : Nat}
    (place : shift = (-(min 0 (max ((mantissa.log2 : Int) - divisor.log2 - 53) (-1074)))).toNat) :
    divCore .binary64 mantissa 0 divisor 0 =
      (mantissa <<< shift / divisor, -(shift : Int),
        accuracyOfFraction (mantissa <<< shift % divisor) divisor) := by
  have target : min (0 - 0 : Int) (Format.targetExponent .binary64
      (totalExponent mantissa 0 - totalExponent divisor 0)) = -shift := by
    rw [targetExponent_eq]
    simp only [totalExponent]
    omega
  simp only [divCore, target]
  simp

/-- A quotient of less than half of its last place. -/
theorem divCore_small {divisor shift : Nat} (some_ : mantissa ≠ 0)
    (place : shift = (-(min 0 (max ((mantissa.log2 : Int) - divisor.log2 - 53) (-1074)))).toNat)
    (small : mantissa * 2 ^ (shift + 1) < divisor) :
    divCore .binary64 mantissa 0 divisor 0 = (0, -(shift : Int), .inexact .lt) := by
  have half : 2 * mantissa <<< shift < divisor := by
    rwa [Nat.shiftLeft_eq, Nat.mul_left_comm, ← Nat.pow_succ']
  have below : mantissa <<< shift < divisor := by omega
  have filled : mantissa <<< shift ≠ 0 := by
    rw [Nat.shiftLeft_eq]
    positivity
  rw [divCore_eq divisor place, Nat.div_eq_of_lt below, Nat.mod_eq_of_lt below, accuracyOfFraction,
    if_neg filled, Nat.compare_eq_lt.mpr half]

/-- A power of ten that is divided by leaves a mantissa that is too large. -/
theorem ofScientific_down_large (positive : 0 < power) (large : 1024 ≤ (mantissa / 10 ^ power).log2) :
    Float.ofScientific mantissa true power = 1.0 / 0.0 := by
  have kept : mantissa / 10 ^ power ≠ 0 := by
    intro none_
    rw [none_] at large
    exact absurd large (by decide)
  have some_ : mantissa ≠ 0 := by
    rintro rfl
    exact kept (Nat.zero_div _)
  have bits := log2_div_add_le kept
  have scale := le_log2_ten_pow power
  have slow : ¬(mantissa < 2 ^ 53 ∧ power ≤ 22) := by
    rintro ⟨short, -⟩
    have := (Nat.log2_lt some_).mpr short
    omega
  have exact_ : 0 = (-(min 0 (max ((mantissa.log2 : Int) - (10 ^ power).log2 - 53) (-1074)))).toNat := by
    omega
  rw [ofScientific_slow slow, if_pos rfl, ofScientific_down some_ positive (by omega), divCore_eq _ exact_]
  simp only [Nat.shiftLeft_zero]
  rw [pack_roundWithAccuracy_large kept (by omega), ofModel_infinity]

/-- A mantissa that is lost in its power of ten. -/
theorem ofScientific_down_small (some_ : mantissa ≠ 0) (small : mantissa * 2 ^ (1074 + 1) < 10 ^ power) :
    Float.ofScientific mantissa true power = 0.0 := by
  have unit : 10 ^ power ≠ 0 := by positivity
  have bits := log2_add_le some_ small.le
  have slow : ¬(mantissa < 2 ^ 53 ∧ power ≤ 22) := by
    rintro ⟨-, near⟩
    have scale : 10 ^ power < 2 ^ 74 :=
      (Nat.pow_le_pow_right (by decide) near).trans_lt (by decide)
    have := (Nat.log2_lt unit).mpr scale
    omega
  have positive : 0 < power := by
    rcases Nat.eq_zero_or_pos power with rfl | positive
    · have one : (10 ^ 0).log2 = 0 := rfl
      omega
    · exact positive
  -- Far enough down no division takes place; nearer, its quotient has no bit left and rounds to zero.
  rcases Nat.lt_or_ge (mantissa.log2 + 2048) power with far | near
  · have cut : (2 : Int) ^ Format.binary64.exponentBits = 2048 := rfl
    have zero : UnpackedFloat.ofScientific .binary64 mantissa (-power) = .zero .positive := by
      rw [UnpackedFloat.ofScientific, dif_neg some_, cut, if_neg (by omega), if_pos (by omega)]
    rw [ofScientific_slow slow, if_pos rfl, zero, ofModel_zero]
  · have place : 1074 = (-(min 0 (max ((mantissa.log2 : Int) - (10 ^ power).log2 - 53) (-1074)))).toNat := by
      omega
    have zero : Float.Model.pack (roundWithAccuracy .binary64 .positive 0 (-(1074 : Nat)) (.inexact .lt)) =
        Float.Model.pack (.zero .positive) := by rfl
    rw [ofScientific_slow slow, if_pos rfl, ofScientific_down some_ positive near,
      divCore_small some_ place small]
    simp only [zero, ofModel_zero]

end Range

section Lengths
variable {n power places length : Nat}

theorem two_pow_le_ten_pow (power : Nat) : 2 ^ (3 * power) ≤ 10 ^ power := by
  rw [Nat.pow_mul]
  exact Nat.pow_le_pow_left (by decide) power

theorem le_log2_of_ten_pow_le (le : 10 ^ power ≤ n) : 3 * power ≤ n.log2 := by
  have some_ : n ≠ 0 := ((show 0 < 10 ^ power by positivity).trans_le le).ne'
  exact (Nat.le_log2 some_).mpr ((two_pow_le_ten_pow power).trans le)

theorem ten_pow_le_mul (le : 10 ^ length ≤ n) (places_le : places ≤ length + power) :
    10 ^ places ≤ n * 10 ^ power := calc
  10 ^ places ≤ 10 ^ (length + power) := Nat.pow_le_pow_right (by decide) places_le
  _ = 10 ^ length * 10 ^ power := Nat.pow_add ..
  _ ≤ n * 10 ^ power := Nat.mul_le_mul_right _ le

theorem ten_pow_le_div (le : 10 ^ length ≤ n) (le_length : places + power ≤ length) :
    10 ^ places ≤ n / 10 ^ power := by
  rw [Nat.le_div_iff_mul_le (by positivity), ← Nat.pow_add]
  exact (Nat.pow_le_pow_right (by decide) le_length).trans le

theorem mul_lt_ten_pow {shift : Nat} (lt : n < 10 ^ length) (le_places : shift ≤ 3 * places)
    (le_power : length + places ≤ power) : n * 2 ^ shift < 10 ^ power := calc
  n * 2 ^ shift ≤ n * 10 ^ places :=
    Nat.mul_le_mul_left _ ((Nat.pow_le_pow_right Nat.two_pos le_places).trans (two_pow_le_ten_pow places))
  _ < 10 ^ length * 10 ^ places := Nat.mul_lt_mul_of_pos_right lt (by positivity)
  _ = 10 ^ (length + places) := (Nat.pow_add ..).symm
  _ ≤ 10 ^ power := Nat.pow_le_pow_right (by decide) le_power

theorem pow_length_le (some_ : n ≠ 0) : 10 ^ ((Nat.toDigits 10 n).length - 1) ≤ n := by
  rcases Nat.eq_zero_or_pos ((Nat.toDigits 10 n).length - 1) with none_ | positive
  · rw [none_]
    omega
  · have longer : ¬(Nat.toDigits 10 n).length ≤ (Nat.toDigits 10 n).length - 1 := by omega
    rw [Nat.length_toDigits_le_iff (by decide) positive] at longer
    exact Nat.le_of_not_lt longer

theorem lt_pow_length (n : Nat) : n < 10 ^ (Nat.toDigits 10 n).length :=
  (Nat.length_toDigits_le_iff (by decide) Nat.length_toDigits_pos).mp le_rfl

end Lengths

section Settled
variable {mantissa power : Nat}

theorem nearest_up (mantissa power : Nat) :
    nearest mantissa power = Float.ofScientific mantissa false power := by
  rcases eq_or_ne mantissa 0 with rfl | some_
  · exact (ofScientific_zero _ _).symm
  have nonzero : (mantissa == 0) = false := beq_eq_false_iff_ne.mpr some_
  have low := pow_length_le some_
  have filled : 0 < (Nat.toDigits 10 mantissa).length := Nat.length_toDigits_pos
  simp only [nearest, nonzero, Bool.false_or, decide_eq_true_eq, Int.ofNat_eq_natCast]
  rw [if_neg (by omega)]
  split
  · rename_i huge
    have bits := le_log2_of_ten_pow_le (ten_pow_le_mul low (show 400 ≤ _ + power by omega))
    rw [ofScientific_up some_ (by omega)]
  · rw [if_pos (by omega), Int.toNat_natCast]

theorem nearest_down (positive : 0 < power) :
    nearest mantissa (-power) = Float.ofScientific mantissa true power := by
  rcases eq_or_ne mantissa 0 with rfl | some_
  · exact (ofScientific_zero _ _).symm
  have nonzero : (mantissa == 0) = false := beq_eq_false_iff_ne.mpr some_
  have low := pow_length_le some_
  have high := lt_pow_length mantissa
  have filled : 0 < (Nat.toDigits 10 mantissa).length := Nat.length_toDigits_pos
  simp only [nearest, nonzero, Bool.false_or, decide_eq_true_eq, Int.ofNat_eq_natCast]
  split
  · rename_i tiny
    have small := mul_lt_ten_pow high (show 1074 + 1 ≤ 3 * 400 by decide) (show _ ≤ power by omega)
    rw [ofScientific_down_small some_ small]
  · split
    · rename_i huge
      have bits := le_log2_of_ten_pow_le (ten_pow_le_div low (show 400 + power ≤ _ by omega))
      rw [ofScientific_down_large positive (by omega)]
    · rw [if_neg (by omega), neg_neg, Int.toNat_natCast]

end Settled

/-- Settling powers by the number of digits comes to rounding the exact value. -/
theorem nearest_eq (mantissa : Nat) (power : Int) : nearest mantissa power = ofPower mantissa power := by
  obtain ⟨size, rfl | rfl⟩ := power.eq_nat_or_neg
  · rw [nearest_up, ofPower, decide_eq_false (by omega), Int.natAbs_natCast]
  · rcases Nat.eq_zero_or_pos size with rfl | positive
    · exact nearest_up mantissa 0
    · rw [nearest_down positive, ofPower, decide_eq_true (by omega), Int.natAbs_neg, Int.natAbs_natCast]

theorem Numeral.toFloat_eq (n : Numeral) : n.toFloat = n.value := by
  simp only [toFloat, value, nearest_eq, ofDigits_eq, Int.ofNat_eq_natCast]

end ApiProbe.Decimal
