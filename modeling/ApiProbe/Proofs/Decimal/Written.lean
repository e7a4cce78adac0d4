import ApiProbe.Decimal.Reading
import ApiProbe.Proofs.Text.Trimming

/-!
Integers as they are written: digits, with a minus in front of those below zero. Every integer of 64
bits is read back from them.
-/
namespace ApiProbe.Decimal

/-- The signs that a written integer is made of. -/
def isNumeral (c : Char) : Bool := c.isDigit || c == '-'

/-- A sign of a number is none of the signs around it. -/
theorem ne_of_isNumeral {c : Char} (numeral : isNumeral c = true) (other : Char)
    (foreign : isNumeral other = false) : c ≠ other := by
  rintro rfl
  rw [numeral] at foreign
  cases foreign

theorem visible_of_isNumeral {c : Char} (numeral : isNumeral c = true) :
    Text.isBlank c = false := by
  simp only [isNumeral, Bool.or_eq_true, beq_iff_eq] at numeral
  rcases numeral with digit | rfl
  · have range := Text.isDigit_iff.mp digit
    exact Text.visible_of_range (by omega) (by omega)
  · decide

theorem fits64_iff {n : Int} : fits64 n = true ↔ int64Min ≤ n ∧ n ≤ int64Max := by
  simp [fits64]

/-- Positions in a list of at most `int64Max` items fit, counted from either end. -/
theorem fits64_position {position length : Nat} (inside : position < length)
    (bound : Int.ofNat length ≤ int64Max) :
    fits64 (Int.ofNat position) = true ∧ fits64 (Int.ofNat position - Int.ofNat length) = true := by
  simp only [fits64_iff, int64Min, int64Max, Int.ofNat_eq_natCast] at bound ⊢
  omega

theorem ofDigits_eq (start : Nat) (digits : List Char) :
    ofDigits start digits = Nat.ofDigitChars 10 digits start := by
  simp only [ofDigits, Nat.ofDigitChars, digitValue, Nat.mul_comm]

theorem toList_ofNat (n : Nat) : (toString n).toList = Nat.toDigits 10 n := Nat.toList_repr

theorem toList_negSucc (n : Nat) :
    (toString (Int.negSucc n)).toList = '-' :: Nat.toDigits 10 (n + 1) := by
  change ("-" ++ Nat.repr (n + 1)).toList = _
  rw [String.toList_append, Nat.toList_repr]
  rfl

theorem all_isDigit_toDigits (n : Nat) : (Nat.toDigits 10 n).all Char.isDigit = true := by
  rw [List.all_eq_true]
  intro c member
  exact Nat.isDigit_of_mem_toDigits (by decide) (by decide) member

/-- A text that starts with neither sign has none to be split off. -/
theorem signOf_unsigned {c : Char} (minus : c ≠ '-') (plus : c ≠ '+') (rest : List Char) :
    signOf (c :: rest) = (false, c :: rest) := by
  unfold signOf
  split
  · rename_i same
    cases same
    exact absurd rfl minus
  · rename_i same
    cases same
    exact absurd rfl plus
  · rfl

theorem signOf_toDigits (n : Nat) : signOf (Nat.toDigits 10 n) = (false, Nat.toDigits 10 n) := by
  have digits := List.all_eq_true.mp (all_isDigit_toDigits n)
  cases chars : Nat.toDigits 10 n with
  | nil => rfl
  | cons c rest =>
    have digit := digits c (by simp [chars])
    apply signOf_unsigned <;> (rintro rfl; exact absurd digit (by decide))

/-- What is read from an optional minus and the digits of a size. -/
theorem readInt64?_digits {chars : List Char} {negative : Bool} {n : Nat}
    (signed : signOf chars = (negative, Nat.toDigits 10 n)) :
    readInt64? chars =
      let value := if negative then -Int.ofNat n else Int.ofNat n
      if fits64 value then some value else none := by
  have some_ : (Nat.toDigits 10 n).isEmpty = false := by simp [Nat.toDigits_ne_nil]
  have size : ofDigits 0 (Nat.toDigits 10 n) = n := by
    rw [ofDigits_eq, Nat.ofDigitChars_toDigits (by decide) (by decide)]
  simp only [readInt64?, signed, some_, all_isDigit_toDigits, size]
  rfl

theorem readInt64?_toString {n : Int} (fits : fits64 n = true) :
    readInt64? (toString n).toList = some n := by
  cases n with
  | ofNat n =>
    change readInt64? (toString n).toList = _
    rw [toList_ofNat, readInt64?_digits (signOf_toDigits n)]
    exact if_pos fits
  | negSucc n =>
    have signed : signOf ('-' :: Nat.toDigits 10 (n + 1)) = (true, Nat.toDigits 10 (n + 1)) := rfl
    rw [toList_negSucc, readInt64?_digits signed]
    exact if_pos fits

theorem fits64_of_readInt64? {chars : List Char} {n : Int} (read : readInt64? chars = some n) :
    fits64 n = true := by
  unfold readInt64? at read
  split at read
  dsimp only at read
  split at read
  · cases read
  · obtain ⟨fits, same⟩ := Option.ite_none_right_eq_some.mp read
    cases same
    exact fits

/-- A written integer is not empty, and it is made of digits and minus signs alone. -/
theorem toString_numeral (n : Int) :
    (toString n).toList ≠ [] ∧ ∀ c ∈ (toString n).toList, isNumeral c = true := by
  have digit {size : Nat} {c : Char} (member : c ∈ Nat.toDigits 10 size) : isNumeral c = true := by
    simp [isNumeral, List.all_eq_true.mp (all_isDigit_toDigits size) c member]
  cases n with
  | ofNat n =>
    change (toString n).toList ≠ [] ∧ ∀ c ∈ (toString n).toList, _
    rw [toList_ofNat]
    exact ⟨Nat.toDigits_ne_nil, fun _ => digit⟩
  | negSucc n =>
    rw [toList_negSucc]
    refine ⟨by simp, fun c member => ?_⟩
    rcases List.mem_cons.mp member with rfl | inside
    · rfl
    · exact digit inside

end ApiProbe.Decimal
