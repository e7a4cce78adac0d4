import ApiProbe.Machine.Library
import ApiProbe.Proofs.Decimal.Written

/-!
Integers at the start of a text, as they are written to a base: a minus or nothing, and digits. Whatever
follows them, they are read back if it does not go on with a digit of the base. The one exception is the
smallest integer of 64 bits, whose size without the minus is no such integer.
-/
namespace ApiProbe.Text

/-- The signs of the digits, in the order of their values. -/
def digitSigns : List Char := "0123456789abcdefghijklmnopqrstuvwxyz".toList

/-- The value of a digit is its place among the signs, in either case. -/
def IsDigit (base : Nat) (c : Char) (value : Nat) : Prop :=
  digitSigns.idxOf? c.toLower = some value ∧ value < base

/-- Digits to a base, the highest one first, and the number that they stand for. -/
inductive Spells (base : Nat) : List Char → Nat → Prop
  | single {c : Char} {value : Nat} (digit : IsDigit base c value) : Spells base [c] value
  | next {front : List Char} {c : Char} {number value : Nat} (before : Spells base front number)
    (digit : IsDigit base c value) : Spells base (front ++ [c]) (number * base + value)

/-- An integer as it is written to a base. -/
inductive Written (base : Nat) : List Char → Int → Prop
  | plain {digits : List Char} {size : Nat} (is : Spells base digits size) : Written base digits size
  | minus {digits : List Char} {size : Nat} (is : Spells base digits size) :
    Written base ('-' :: digits) (-size)

section Digits
variable {base value : Nat} {c : Char}

/-- Kinds of characters and a table of signs give digits the same values. -/
theorem digitOf?_eq_some_iff : digitOf? base c = some value ↔ IsDigit base c value := by
  have same : (if c.isDigit then some (c.toNat - 48)
      else if c.isLower then some (c.toNat - 87)
      else if c.isUpper then some (c.toNat - 55)
      else none) = digitSigns.idxOf? c.toLower := by
    by_cases small : c.toNat < 128
    · have below : ∀ n < 128, (if (Char.ofNat n).isDigit then some ((Char.ofNat n).toNat - 48)
          else if (Char.ofNat n).isLower then some ((Char.ofNat n).toNat - 87)
          else if (Char.ofNat n).isUpper then some ((Char.ofNat n).toNat - 55)
          else none) = digitSigns.idxOf? (Char.ofNat n).toLower := by
        decide +kernel
      rw [← Char.ofNat_toNat c]
      exact below _ small
    · have digit : ¬c.isDigit = true := by rw [isDigit_iff]; omega
      have letter : ¬c.isAlpha = true := by rw [isAlpha_iff]; omega
      obtain ⟨upper, lower⟩ := not_or.mp (mt Bool.or_eq_true_iff.mpr letter)
      have unknown : c ∉ digitSigns := by
        have signs : digitSigns.all (fun d => d.toNat < 128) = true := by decide
        exact fun member => small (of_decide_eq_true (List.all_eq_true.mp signs c member))
      rw [if_neg digit, if_neg lower, if_neg upper, toLower_large (Nat.le_of_not_lt small),
        List.idxOf?_eq_none_iff.mpr unknown]
  rw [digitOf?, same, Option.filter_eq_some_iff, decide_eq_true_eq, IsDigit]

theorem digitOf?_eq_none_iff : digitOf? base c = none ↔ ∀ value, ¬IsDigit base c value := by
  simp only [Option.eq_none_iff_forall_ne_some, ne_eq, digitOf?_eq_some_iff]

/-- Digits are letters and decimal digits. -/
theorem IsDigit.isAlphanum (digit : IsDigit base c value) : c.isAlphanum = true := by
  have some_ := digitOf?_eq_some_iff.mpr digit
  by_contra other
  obtain ⟨letter, decimal⟩ := not_or.mp (mt Bool.or_eq_true_iff.mpr other)
  obtain ⟨upper, lower⟩ := not_or.mp (mt Bool.or_eq_true_iff.mpr letter)
  rw [digitOf?, if_neg decimal, if_neg lower, if_neg upper] at some_
  cases some_

end Digits

section Spelling
variable {base size : Nat} {digits rest : List Char}

theorem exists_spells (large : 2 ≤ base) (known : base ≤ 36) (size : Nat) :
    ∃ digits, Spells base digits size := by
  have signs : ∀ value < 36,
      digitSigns.any (fun c => digitSigns.idxOf? c.toLower == some value) = true := by decide
  induction size using Nat.strongRecOn with
  | ind size ih =>
    have below : size % base < base := Nat.mod_lt size (by omega)
    obtain ⟨c, -, place⟩ := List.any_eq_true.mp (signs (size % base) (by omega))
    rw [beq_iff_eq] at place
    rcases Nat.lt_or_ge size base with small | big
    · rw [Nat.mod_eq_of_lt small] at place
      exact ⟨[c], .single ⟨place, small⟩⟩
    · obtain ⟨front, before⟩ := ih (size / base) (Nat.div_lt_self (by omega) large)
      have whole : Spells base (front ++ [c]) (size / base * base + size % base) :=
        .next before ⟨place, below⟩
      rw [Nat.div_add_mod'] at whole
      exact ⟨_, whole⟩

/-- Every integer has a written form to every base that has signs. -/
theorem exists_written (large : 2 ≤ base) (known : base ≤ 36) (n : Int) :
    ∃ chars, Written base chars n := by
  obtain ⟨digits, is⟩ := exists_spells large known n.natAbs
  rcases Int.natAbs_eq n with same | same
  · rw [same]
    exact ⟨digits, .plain is⟩
  · rw [same]
    exact ⟨_, .minus is⟩

theorem Spells.exists_head (is : Spells base digits size) :
    ∃ c tail value, digits = c :: tail ∧ IsDigit base c value := by
  induction is with
  | single digit => exact ⟨_, [], _, rfl, digit⟩
  | next _ _ ih =>
    obtain ⟨c, tail, value, rfl, digit⟩ := ih
    exact ⟨c, _, value, rfl, digit⟩

/-- Digits in front of a text are taken up as the number that they stand for. -/
theorem Spells.absorbDigits_append (is : Spells base digits size) (rest : List Char) :
    absorbDigits base 0 (digits ++ rest) = absorbDigits base size rest := by
  induction is generalizing rest with
  | single digit =>
    simp only [List.singleton_append, absorbDigits, digitOf?_eq_some_iff.mpr digit, Nat.zero_mul,
      Nat.zero_add]
  | next _ digit ih =>
    rw [List.append_assoc, List.singleton_append, ih, absorbDigits, digitOf?_eq_some_iff.mpr digit]

/-- Digits that follow digits make the number that comes of taking them up. -/
theorem Spells.append_digits (is : Spells base digits size)
    (all : ∀ c ∈ rest, (digitOf? base c).isSome = true) :
    Spells base (digits ++ rest) (absorbDigits base size rest) := by
  induction rest generalizing digits size with
  | nil => rwa [List.append_nil]
  | cons c tail ih =>
    obtain ⟨value, digit⟩ := Option.isSome_iff_exists.mp (all c List.mem_cons_self)
    have first : Spells base (digits ++ [c]) (size * base + value) :=
      .next is (digitOf?_eq_some_iff.mp digit)
    rw [List.append_cons, absorbDigits, digit]
    exact ih first fun d member => all d (.tail c member)

theorem absorbDigits_boundary (boundary : ∀ c ∈ rest.head?, ∀ value, ¬IsDigit base c value)
    (start : Nat) : absorbDigits base start rest = start := by
  cases rest with
  | nil => rfl
  | cons c tail => simp only [absorbDigits, digitOf?_eq_none_iff.mpr (boundary c rfl)]

/-- A written integer starts with its sign, and neither it nor a digit is a blank. -/
theorem Written.signOf_trimLeft {chars : List Char} {n : Int} (written : Written base chars n) :
    ∃ negative digits size, Spells base digits size ∧ n = (if negative then -(size : Int) else size) ∧
      ∀ rest, Decimal.signOf (trimLeft (chars ++ rest)) = (negative, digits ++ rest) := by
  cases written with
  | plain is =>
    refine ⟨false, chars, _, is, rfl, fun rest => ?_⟩
    obtain ⟨c, tail, value, rfl, digit⟩ := is.exists_head
    have part := digit.isAlphanum
    have minus : c ≠ '-' := by
      rintro rfl
      exact absurd part (by decide)
    have plus : c ≠ '+' := by
      rintro rfl
      exact absurd part (by decide)
    rw [List.cons_append, trimLeft_cons_visible (visible_of_isAlphanum part),
      Decimal.signOf_unsigned minus plus]
  | minus is =>
    refine ⟨true, _, _, is, rfl, fun rest => ?_⟩
    rw [List.cons_append, trimLeft_cons_visible (by decide), Decimal.signOf.eq_1]

end Spelling
end ApiProbe.Text

namespace ApiProbe.Machine.Library
open Text (Written IsDigit)
open Decimal (fits64 int64Min int64Max)

variable {base : Nat} {n : Int} {chars rest : List Char}

/-- An integer is read if its size without the sign is an integer of 64 bits. -/
theorem leadingInteger?_written (usable : 2 ≤ base ∧ base ≤ 36) (written : Written base chars n)
    (boundary : ∀ c ∈ rest.head?, ∀ value, ¬IsDigit base c value) :
    Text.leadingInteger? base (String.ofList (chars ++ rest)) =
      if (n.natAbs : Int) ≤ int64Max then some n else none := by
  obtain ⟨negative, digits, size, is, rfl, start⟩ := written.signOf_trimLeft
  have known : Text.usableBase base = base := by simp [Text.usableBase]; omega
  obtain ⟨c, tail, value, shape, digit⟩ := is.exists_head
  have some_ : ((digits ++ rest).head?.bind (Text.digitOf? base)).isNone = false := by
    simp [shape, Text.digitOf?_eq_some_iff.mpr digit]
  have whole : Text.absorbDigits base 0 (digits ++ rest) = size := by
    rw [is.absorbDigits_append, Text.absorbDigits_boundary boundary]
  simp only [Text.leadingInteger?, String.toList_ofList, start, known, some_, whole]
  cases negative <;> simp

/-- Every integer of 64 bits can be written to every base from 2 to 36, and it is read back from what is
written, whatever follows that is no digit of the base. Only the smallest one is not: its size is not read
without the sign, and so nothing is. -/
theorem parseInt_written (usable : 2 ≤ base ∧ base ≤ 36) (fits : fits64 n = true) :
    (∃ chars, Written base chars n) ∧
    ∀ chars rest, Written base chars n → (∀ c ∈ rest.head?, ∀ value, ¬IsDigit base c value) →
      let text := Value.str (String.ofList (chars ++ rest))
      let reply := Answer.value (if n = int64Min then .unit else .int n)
      call? "parseInt" [text, .int base] = reply ∧ (base = 10 → call? "parseInt" [text] = reply) := by
  refine ⟨Text.exists_written usable.1 usable.2 n, fun chars rest written boundary => ?_⟩
  have smallest : (n.natAbs : Int) ≤ int64Max ↔ ¬n = int64Min := by
    have range := Decimal.fits64_iff.mp fits
    simp only [int64Min, int64Max] at range ⊢
    omega
  have read := leadingInteger?_written usable written boundary
  simp only [smallest, ite_not] at read
  have value : ((if n = int64Min then none else some n).map Value.int).getD .unit =
      if n = int64Min then .unit else .int n := by
    split <;> rfl
  intro text reply
  constructor
  · change Answer.value (((Text.leadingInteger? base _).map Value.int).getD .unit) = reply
    rw [read, value]
  · rintro rfl
    change Answer.value (((Text.leadingInteger? (10 : Nat) _).map Value.int).getD .unit) = reply
    rw [read, value]

/-- In front of a letter that is no digit the smallest integer is missed, and the one behind it is read in
capital and small letters. -/
theorem parseInt_written_smallest :
    fits64 int64Min = true ∧ fits64 (int64Min + 1) = true ∧
      Written 16 "-8000000000000000".toList int64Min ∧
      Written 16 "-7fffFFFFffffFFFF".toList (int64Min + 1) ∧
      call? "parseInt" [.str "-8000000000000000g", .int 16] = .value .unit ∧
      call? "parseInt" [.str "-7fffFFFFffffFFFFg", .int 16] = .value (.int (int64Min + 1)) := by
  have eight : Text.Spells 16 ['8'] 8 := .single ⟨by decide, by decide⟩
  have seven : Text.Spells 16 ['7'] 7 := .single ⟨by decide, by decide⟩
  have size : Text.Spells 16 (['8'] ++ "000000000000000".toList) (2 ^ 63) :=
    eight.append_digits (List.all_eq_true.mp (by decide))
  have nextSize : Text.Spells 16 (['7'] ++ "fffFFFFffffFFFF".toList) (2 ^ 63 - 1) :=
    seven.append_digits (List.all_eq_true.mp (by decide))
  have smallest : Written 16 "-8000000000000000".toList int64Min := .minus size
  have next : Written 16 "-7fffFFFFffffFFFF".toList (int64Min + 1) := .minus nextSize
  have boundary : ∀ c ∈ ['g'].head?, ∀ value, ¬IsDigit 16 c value := by
    rintro c ⟨⟩
    exact Text.digitOf?_eq_none_iff.mp (by decide)
  have fits : fits64 int64Min = true := by decide
  have fitsNext : fits64 (int64Min + 1) = true := by decide
  have usable : 2 ≤ 16 ∧ 16 ≤ 36 := by decide
  exact ⟨fits, fitsNext, smallest, next, ((parseInt_written usable fits).2 _ _ smallest boundary).1,
    ((parseInt_written usable fitsNext).2 _ _ next boundary).1⟩

end ApiProbe.Machine.Library
