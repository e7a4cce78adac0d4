import ApiProbe.Proofs.Decimal.Written

/-!
Decimal numbers as they are written: a sign or none, digits with or without a fraction or a fraction alone,
and an exponent or none. What is read as a floating-point number is a number of this form, or one of the
names of the values that have no digits.
-/
namespace ApiProbe.Decimal

/-- A sign or none; the flag is true of a minus. -/
inductive Sign : Bool → List Char → Prop
  | none : Sign false []
  | plus : Sign false ['+']
  | minus : Sign true ['-']

/-- Digits in front of the point and behind it, at least one in all, and how they are written. Without
digits behind it the point may be left out. -/
inductive Significand : List Char → List Char → List Char → Prop
  | whole {digits : List Char} (some_ : digits ≠ []) (all : ∀ c ∈ digits, c.isDigit = true) :
    Significand digits [] digits
  | point {digits fraction : List Char} (some_ : digits ++ fraction ≠ [])
    (all : ∀ c ∈ digits, c.isDigit = true) (behind : ∀ c ∈ fraction, c.isDigit = true) :
    Significand digits fraction (digits ++ '.' :: fraction)

/-- The power of ten that an exponent stands for. -/
inductive Exponent : Int → List Char → Prop
  | none : Exponent 0 []
  | some {mark : Char} {negative : Bool} {sign digits : List Char} (marked : mark = 'e' ∨ mark = 'E')
    (signed : Sign negative sign) (some_ : digits ≠ []) (all : ∀ c ∈ digits, c.isDigit = true) :
    Exponent (if negative then -(ofDigits 0 digits : Int) else ofDigits 0 digits)
      (mark :: (sign ++ digits))

/-- A decimal number and what it says. -/
inductive IsDecimal : Numeral → List Char → Prop
  | mk {negative : Bool} {sign digits fraction body tail : List Char} {exponent : Int}
    (signed : Sign negative sign) (significand : Significand digits fraction body)
    (scaled : Exponent exponent tail) :
    IsDecimal ⟨negative, digits ++ fraction, fraction.length, exponent⟩ (sign ++ (body ++ tail))

/-- The names of the values that have no digits, in any case, behind a sign or none. -/
inductive IsName : Float → List Char → Prop
  | infinite {negative : Bool} {sign name : List Char} (signed : Sign negative sign)
    (is : name.map Char.toLower = "inf".toList ∨ name.map Char.toLower = "infinity".toList) :
    IsName (if negative then -(1.0 / 0.0) else 1.0 / 0.0) (sign ++ name)
  | notANumber {negative : Bool} {sign name : List Char} (signed : Sign negative sign)
    (is : name.map Char.toLower = "nan".toList) :
    IsName (if negative then -(0.0 / 0.0) else 0.0 / 0.0) (sign ++ name)

section Signs
variable {negative : Bool} {sign body chars : List Char} {c : Char}

theorem sign_of_signOf (split : signOf chars = (negative, body)) :
    ∃ sign, Sign negative sign ∧ chars = sign ++ body := by
  unfold signOf at split
  split at split <;> cases split
  · exact ⟨_, .minus, rfl⟩
  · exact ⟨_, .plus, rfl⟩
  · exact ⟨_, .none, rfl⟩

/-- A sign is split off what does not start with a further one. -/
theorem Sign.signOf_append (signed : Sign negative sign) (minus : c ≠ '-') (plus : c ≠ '+')
    (rest : List Char) : signOf (sign ++ c :: rest) = (negative, c :: rest) := by
  cases signed with
  | none => exact signOf_unsigned minus plus rest
  | plus => rfl
  | minus => rfl

end Signs

section Digits
variable {digits rest chars : List Char} {c : Char}

theorem digitsOf_append (all : ∀ c ∈ digits, c.isDigit = true)
    (boundary : ∀ c ∈ rest.head?, c.isDigit = false) : digitsOf (digits ++ rest) = (digits, rest) := by
  obtain ⟨taken, left⟩ := Text.span_of_boundary Char.isDigit all boundary
  rw [digitsOf, taken, left]

theorem digitsOf_spec (split : digitsOf chars = (digits, rest)) :
    chars = digits ++ rest ∧ ∀ c ∈ digits, c.isDigit = true := by
  cases split
  exact ⟨List.takeWhile_append_dropWhile.symm, fun _ => List.mem_takeWhile_imp⟩

theorem ne_of_isDigit (digit : c.isDigit = true) (other : Char) (foreign : other.isDigit = false) :
    c ≠ other := by
  rintro rfl
  rw [digit] at foreign
  cases foreign

end Digits

section Exponents
variable {exponent : Int} {tail rest chars : List Char}

theorem exponent_of_exponentOf (read : exponentOf chars = some (exponent, rest)) :
    ∃ tail, Exponent exponent tail ∧ chars = tail ++ rest := by
  unfold exponentOf at read
  split at read
  · rename_i mark behind
    split at read
    · rename_i marked
      generalize signs : signOf behind = split at read
      obtain ⟨negative, body⟩ := split
      dsimp only at read
      generalize digitRun : digitsOf body = run at read
      obtain ⟨digits, after⟩ := run
      obtain ⟨some_, same⟩ := Option.ite_none_left_eq_some.mp read
      cases same
      obtain ⟨sign, signed, rfl⟩ := sign_of_signOf signs
      obtain ⟨rfl, all⟩ := digitsOf_spec digitRun
      refine ⟨mark :: (sign ++ digits), .some (by simpa using marked) signed (by simpa using some_) all, ?_⟩
      simp
    · cases read
  · cases read

/-- An exponent is read as a whole, and where there is none, nothing is. -/
theorem Exponent.exponentOf_eq (scaled : Exponent exponent tail) :
    exponentOf tail = Option.some (exponent, []) ∨
      exponentOf tail = Option.none ∧ exponent = 0 ∧ tail = [] := by
  cases scaled with
  | none => exact .inr ⟨rfl, rfl, rfl⟩
  | @some mark negative sign digits marked signed some_ all =>
    obtain ⟨c, more, rfl⟩ := List.exists_cons_of_ne_nil some_
    have digit := all c List.mem_cons_self
    have read := signed.signOf_append (ne_of_isDigit digit '-' rfl) (ne_of_isDigit digit '+' rfl) more
    have run : digitsOf (c :: more) = (c :: more, []) := by
      have whole : ∀ c ∈ ([] : List Char).head?, c.isDigit = false := by simp
      simpa using digitsOf_append all whole
    left
    simp only [exponentOf, read, run]
    simp [marked]

end Exponents

section Numerals
variable {numeral : Numeral} {negative : Bool} {sign digits fraction body after chars rest : List Char}

/-- What follows a significand is an exponent, or no part of the number. -/
theorem isDecimal_of_exponentOf (signed : Sign negative sign) (significand : Significand digits fraction body)
    (read : (match exponentOf after with
      | some (exponent, rest) => some (⟨negative, digits ++ fraction, fraction.length, exponent⟩, rest)
      | none => some (⟨negative, digits ++ fraction, fraction.length, 0⟩, after)) = some (numeral, rest)) :
    ∃ front, IsDecimal numeral front ∧ sign ++ (body ++ after) = front ++ rest := by
  cases scaled : exponentOf after with
  | none =>
    rw [scaled] at read
    cases read
    exact ⟨_, .mk signed significand .none, by simp⟩
  | some found =>
    obtain ⟨exponent, behind⟩ := found
    rw [scaled] at read
    cases read
    obtain ⟨tail, is, rfl⟩ := exponent_of_exponentOf scaled
    exact ⟨_, .mk signed significand is, by simp⟩

/-- What is read off the start of a text is a decimal number. -/
theorem isDecimal_of_numeralOf (read : numeralOf chars = some (numeral, rest)) :
    ∃ front, IsDecimal numeral front ∧ chars = front ++ rest := by
  unfold numeralOf at read
  generalize signs : signOf chars = split at read
  obtain ⟨negative, body⟩ := split
  obtain ⟨sign, signed, rfl⟩ := sign_of_signOf signs
  dsimp only at read
  generalize wholeRun : digitsOf body = run at read
  obtain ⟨digits, afterWhole⟩ := run
  obtain ⟨rfl, all⟩ := digitsOf_spec wholeRun
  dsimp only at read
  split at read
  · rename_i fractionText
    generalize fractionRun : digitsOf fractionText = run at read
    obtain ⟨fraction, after⟩ := run
    obtain ⟨rfl, behind⟩ := digitsOf_spec fractionRun
    obtain ⟨some_, read⟩ := Option.ite_none_left_eq_some.mp read
    have significand : Significand digits fraction (digits ++ '.' :: fraction) :=
      .point (by simpa using some_) all behind
    obtain ⟨front, is, same⟩ := isDecimal_of_exponentOf signed significand read
    exact ⟨front, is, by simpa using same⟩
  · obtain ⟨some_, read⟩ := Option.ite_none_left_eq_some.mp read
    have significand : Significand digits [] digits := .whole (by simpa using some_) all
    exact isDecimal_of_exponentOf signed significand read

theorem Exponent.boundary {exponent : Int} {tail : List Char} (scaled : Exponent exponent tail) :
    ∀ c ∈ tail.head?, c.isDigit = false ∧ c ≠ '.' := by
  cases scaled with
  | none => simp
  | some marked =>
    rintro c ⟨⟩
    rcases marked with rfl | rfl <;> decide

theorem Significand.exists_head (significand : Significand digits fraction body) :
    ∃ c tail, body = c :: tail ∧ (c.isDigit = true ∨ c = '.') := by
  cases significand with
  | whole some_ all =>
    obtain ⟨c, tail, rfl⟩ := List.exists_cons_of_ne_nil some_
    exact ⟨c, tail, rfl, .inl (all c List.mem_cons_self)⟩
  | point _ all _ =>
    cases digits with
    | nil => exact ⟨'.', _, rfl, .inr rfl⟩
    | cons c tail => exact ⟨c, _, rfl, .inl (all c List.mem_cons_self)⟩

/-- A decimal number is read as a whole. -/
theorem IsDecimal.numeralOf_eq (is : IsDecimal numeral chars) : numeralOf chars = some (numeral, []) := by
  obtain ⟨signed, significand, scaled⟩ := is
  rename_i negative sign digits fraction body tail exponent
  obtain ⟨c, more, shape, first⟩ := significand.exists_head
  have minus : c ≠ '-' := by rintro rfl; rcases first with first | first <;> cases first
  have plus : c ≠ '+' := by rintro rfl; rcases first with first | first <;> cases first
  have signs : signOf (sign ++ (body ++ tail)) = (negative, body ++ tail) := by
    rw [shape]
    exact signed.signOf_append minus plus _
  have noDigit : ∀ c ∈ tail.head?, c.isDigit = false := fun c first => (scaled.boundary c first).1
  unfold numeralOf
  rw [signs]
  dsimp only
  cases significand with
  | whole some_ all =>
    rw [digitsOf_append all noDigit]
    dsimp only
    split
    · exact absurd rfl (scaled.boundary '.' rfl).2
    · rcases scaled.exponentOf_eq with read | ⟨read, rfl, rfl⟩ <;> simp [read, some_]
  | point some_ all behind =>
    have noDigits : ∀ c ∈ ('.' :: (fraction ++ tail)).head?, c.isDigit = false := by
      rintro c ⟨⟩
      rfl
    rw [List.append_assoc, List.cons_append, digitsOf_append all noDigits]
    simp only [digitsOf_append behind noDigit]
    have filled : (digits.isEmpty && fraction.isEmpty) = false := by simpa using some_
    rcases scaled.exponentOf_eq with read | ⟨read, rfl, rfl⟩ <;> simp [read, filled]

/-- The decimal numbers are what is read with nothing left over. -/
theorem numeralOf_eq_some_iff : numeralOf chars = some (numeral, []) ↔ IsDecimal numeral chars := by
  refine ⟨fun read => ?_, IsDecimal.numeralOf_eq⟩
  obtain ⟨front, is, rfl⟩ := isDecimal_of_numeralOf read
  rwa [List.append_nil]

end Numerals

/-!
### Names
-/

section Names
variable {numeral : Numeral} {x : Float} {negative : Bool} {sign name chars : List Char}

theorem ofList_beq_iff (chars : List Char) (text : String) :
    (String.ofList chars == text) = true ↔ chars = text.toList := by
  rw [beq_iff_eq]
  constructor
  · rintro rfl
    exact String.toList_ofList.symm
  · rintro rfl
    exact String.ofList_toList

/-- A sign is split off a name. -/
theorem Sign.signOf_name (signed : Sign negative sign) {d : Char} {more : List Char}
    (is : name.map Char.toLower = d :: more) (minus : d ≠ '-') (plus : d ≠ '+') :
    signOf (sign ++ name) = (negative, name) := by
  obtain ⟨c, tail, rfl, rfl, -⟩ := List.map_eq_cons_iff.mp is
  refine signed.signOf_append ?_ ?_ tail <;> rintro rfl
  · exact minus rfl
  · exact plus rfl

theorem named?_eq_some_iff : named? chars = some x ↔ IsName x chars := by
  constructor
  · intro read
    unfold named? at read
    generalize signs : signOf chars = split at read
    obtain ⟨negative, body⟩ := split
    obtain ⟨sign, signed, rfl⟩ := sign_of_signOf signs
    simp only [Bool.or_eq_true, ofList_beq_iff] at read
    split at read
    · rename_i infinite
      cases read
      exact .infinite signed infinite
    · split at read
      · rename_i notANumber
        cases read
        exact .notANumber signed notANumber
      · cases read
  · intro is
    cases is with
    | infinite signed is =>
      have signs := is.elim (signed.signOf_name · (by decide) (by decide))
        (signed.signOf_name · (by decide) (by decide))
      simp only [named?, signs, Bool.or_eq_true, ofList_beq_iff, if_pos is]
    | notANumber signed is =>
      have signs := signed.signOf_name is (by decide) (by decide)
      simp only [named?, signs, Bool.or_eq_true, ofList_beq_iff, is]
      rfl

end Names

/-!
### Floating-point numbers
-/

section Forms
variable {numeral : Numeral} {x : Float} {front other chars : List Char}

/-- The first character behind a sign or none. -/
def lead (chars : List Char) : Option Char := (signOf chars).2.head?

theorem Sign.lead_append {negative : Bool} {sign body : List Char} {c : Char}
    (signed : Sign negative sign) (first : body.head? = some c) (minus : c ≠ '-') (plus : c ≠ '+')
    (rest : List Char) : lead (sign ++ body ++ rest) = some c := by
  obtain ⟨tail, rfl⟩ := List.head?_eq_some_iff.mp first
  rw [List.append_assoc, List.cons_append, lead, signed.signOf_append minus plus]
  rfl

theorem IsDecimal.lead_of_prefix (is : IsDecimal numeral front) (starts : front <+: chars) :
    ∃ c, lead chars = some c ∧ (c.isDigit = true ∨ c = '.') := by
  obtain ⟨rest, rfl⟩ := starts
  obtain ⟨signed, significand, -⟩ := is
  obtain ⟨c, tail, rfl, first⟩ := significand.exists_head
  refine ⟨c, signed.lead_append rfl ?_ ?_ rest, first⟩ <;> rintro rfl <;>
    rcases first with first | first <;> cases first

theorem IsName.lead_of_prefix (is : IsName x front) (starts : front <+: chars) :
    ∃ c, lead chars = some c ∧ c.isAlpha = true := by
  obtain ⟨rest, rfl⟩ := starts
  have letter {negative : Bool} {sign name tail : List Char} {d : Char} (signed : Sign negative sign)
      (spelled : name.map Char.toLower = d :: tail) (alpha : d.isAlpha = true) :
      ∃ c, lead (sign ++ name ++ rest) = some c ∧ c.isAlpha = true := by
    obtain ⟨c, more, rfl, rfl, -⟩ := List.map_eq_cons_iff.mp spelled
    have letter : c.isAlpha = true := by
      by_cases upper : c.isUpper = true
      · exact (Bool.or_eq_true ..).mpr (.inl upper)
      · rwa [show c.toLower = c from dif_neg fun inside => upper (decide_eq_true inside)] at alpha
    refine ⟨c, signed.lead_append rfl ?_ ?_ rest, letter⟩ <;> rintro rfl <;> cases letter
  cases is with
  | infinite signed is => rcases is with is | is <;> exact letter signed is rfl
  | notANumber signed is => exact letter signed is rfl

/-- No text starts with a decimal number and with a name. -/
theorem IsName.not_isDecimal (is : IsName x front) (starts : front <+: chars)
    (begins : other <+: chars) : ¬IsDecimal numeral other := by
  intro decimal
  obtain ⟨c, first, letter⟩ := is.lead_of_prefix starts
  obtain ⟨d, same, digit⟩ := decimal.lead_of_prefix begins
  rw [first] at same
  cases same
  rw [Text.isAlpha_iff] at letter
  rcases digit with digit | rfl
  · rw [Text.isDigit_iff] at digit
    omega
  · exact absurd letter (by decide)

/-- What is read as a floating-point number is a decimal number or a name. -/
theorem readFloat?_eq_some_iff :
    readFloat? chars = some x ↔
      (∃ numeral, IsDecimal numeral chars ∧ numeral.toFloat = x) ∨ IsName x chars := by
  have whole := List.prefix_refl chars
  unfold readFloat?
  split
  · rename_i numeral read
    have decimal := numeralOf_eq_some_iff.mp read
    constructor
    · rintro ⟨⟩
      exact .inl ⟨numeral, decimal, rfl⟩
    · rintro (⟨other, is, rfl⟩ | named)
      · have same := read.symm.trans is.numeralOf_eq
        cases same
        rfl
      · exact absurd decimal (named.not_isDecimal whole whole)
  · rename_i left
    rw [named?_eq_some_iff]
    refine ⟨.inr, ?_⟩
    rintro (⟨numeral, is, -⟩ | named)
    · exact absurd is.numeralOf_eq (left numeral)
    · exact named

theorem isSome_readFloat?_iff :
    (readFloat? chars).isSome = true ↔
      (∃ numeral, IsDecimal numeral chars) ∨ ∃ x, IsName x chars := by
  rw [Option.isSome_iff_exists]
  simp only [readFloat?_eq_some_iff]
  constructor
  · rintro ⟨x, ⟨numeral, is, -⟩ | is⟩
    · exact .inl ⟨numeral, is⟩
    · exact .inr ⟨x, is⟩
  · rintro (⟨numeral, is⟩ | ⟨x, is⟩)
    · exact ⟨_, .inl ⟨numeral, is, rfl⟩⟩
    · exact ⟨x, .inr is⟩

end Forms

end ApiProbe.Decimal
