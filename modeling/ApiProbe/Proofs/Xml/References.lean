import ApiProbe.Proofs.Text.Trimming
import ApiProbe.Proofs.Xml.Escaping

/-!
References to characters against their grammar: five by name, any character by the digits of its code.
Decoding takes one kind more for a reference, a code with a plus sign in front of its digits. All that
it takes is replaced from left to right and all else is copied, so a text is decoded by the grammar
exactly if no code with a sign is in it.
-/
namespace ApiProbe.Xml

/-- The value of a digit is its place among the digits of the base, in either case. -/
def digitIn? (base : Nat) (c : Char) : Option Nat :=
  ("0123456789abcdef".toList.take base).idxOf? c.toLower

/-- Digits of a base, and the number that they stand for. -/
inductive Digits (base : Nat) : List Char → Nat → Prop
  | single {c : Char} {value : Nat} (digit : digitIn? base c = some value) : Digits base [c] value
  | next {front : List Char} {c : Char} {number value : Nat} (before : Digits base front number)
    (digit : digitIn? base c = some value) : Digits base (front ++ [c]) (number * base + value)

/-- A character by its code; surrogates have none. `sign` is what stands in front of the digits. -/
inductive CodeReference (sign : List Char) : List Char → Char → Prop
  | decimal {digits : List Char} {code : Nat} (is : Digits 10 digits code)
    (valid : code.isValidChar) : CodeReference sign ('#' :: (sign ++ digits)) (Char.ofNat code)
  | hexadecimal {mark : Char} {digits : List Char} {code : Nat} (marked : mark = 'x' ∨ mark = 'X')
    (is : Digits 16 digits code) (valid : code.isValidChar) :
    CodeReference sign ('#' :: mark :: (sign ++ digits)) (Char.ofNat code)

/-- What stands between `&` and `;` in a reference, and the character that it stands for. -/
inductive Reference : List Char → Char → Prop
  | less : Reference "lt".toList '<'
  | greater : Reference "gt".toList '>'
  | ampersand : Reference "amp".toList '&'
  | quote : Reference "quot".toList '"'
  | apostrophe : Reference "apos".toList '\''
  | code {inner : List Char} {image : Char} (is : CodeReference [] inner image) :
    Reference inner image

abbrev SignedReference : List Char → Char → Prop := CodeReference ['+']

/-- What decoding takes for a reference. -/
def Taken (inner : List Char) (image : Char) : Prop :=
  Reference inner image ∨ SignedReference inner image

def writtenReference (inner : List Char) : List Char := '&' :: (inner ++ [';'])

/-- A text with the references of a kind replaced, from left to right. Where one starts it gives way to
its character, which is not read again; where none starts the character stays. -/
inductive Replaced (refers : List Char → Char → Prop) : List Char → List Char → Prop
  | done : Replaced refers [] []
  | reference {inner rest out : List Char} {image : Char} (is : refers inner image)
    (behind : Replaced refers rest out) :
    Replaced refers (writtenReference inner ++ rest) (image :: out)
  | other {c : Char} {rest out : List Char}
    (none_ : ∀ inner image, refers inner image → ¬writtenReference inner <+: c :: rest)
    (behind : Replaced refers rest out) : Replaced refers (c :: rest) (c :: out)

section Digits
variable {base number : Nat} {digits chars : List Char}

/-- No digit is beyond the first 128 characters. -/
theorem digitIn?_large {c : Char} (large : 128 ≤ c.toNat) (base : Nat) : digitIn? base c = none := by
  rw [digitIn?, List.idxOf?_eq_none_iff, Text.toLower_large large]
  intro member
  have small : ("0123456789abcdef".toList.all fun d => decide (d.toNat < 128)) = true := by decide
  have inside := of_decide_eq_true (List.all_eq_true.mp small c (List.mem_of_mem_take member))
  omega

theorem not_isDigit_large {c : Char} (large : 128 ≤ c.toNat) : ¬c.isDigit = true := by
  intro digit
  simp only [Char.isDigit, Bool.and_eq_true, decide_eq_true_eq] at digit
  have below : c.toNat ≤ 57 := UInt32.le_iff_toNat_le.mp digit.2
  omega

theorem hexDigit?_eq (c : Char) : hexDigit? c = digitIn? 16 c := by
  by_cases small : c.toNat < 128
  · have below : ∀ n < 128, hexDigit? (Char.ofNat n) = digitIn? 16 (Char.ofNat n) := by
      decide +kernel
    rw [← Char.ofNat_toNat c]
    exact below _ small
  · have large : 128 ≤ c.toNat := by omega
    rw [hexDigit?, if_neg (not_isDigit_large large), Text.toLower_large large, digitIn?_large large, if_neg]
    intro letter
    simp only [Bool.and_eq_true, decide_eq_true_eq] at letter
    have below : c.toNat ≤ 102 := UInt32.le_iff_toNat_le.mp letter.2
    omega

theorem digitIn?_ten (c : Char) :
    digitIn? 10 c = if c.isDigit then some (Decimal.digitValue c) else none := by
  by_cases small : c.toNat < 128
  · have below : ∀ n < 128, digitIn? 10 (Char.ofNat n)
        = if (Char.ofNat n).isDigit then some (Decimal.digitValue (Char.ofNat n)) else none := by
      decide +kernel
    rw [← Char.ofNat_toNat c]
    exact below _ small
  · have large : 128 ≤ c.toNat := by omega
    rw [digitIn?_large large, if_neg (not_isDigit_large large)]

theorem not_digits_nil : ¬Digits base [] number := by
  intro is
  generalize shape : ([] : List Char) = digits at is
  cases is <;> simp at shape

/-- Digits end with a digit, which is alone or behind others. -/
theorem digits_concat_iff {front : List Char} {c : Char} :
    Digits base (front ++ [c]) number ↔ ∃ before value, digitIn? base c = some value ∧
      number = before * base + value ∧ (front = [] ∧ before = 0 ∨ Digits base front before) := by
  constructor
  · intro is
    generalize shape : front ++ [c] = digits at is
    cases is with
    | @single last _ digit =>
      obtain ⟨rfl, same⟩ : front = [] ∧ [c] = [last] := List.append_inj' shape rfl
      cases same
      exact ⟨0, number, digit, by omega, .inl ⟨rfl, rfl⟩⟩
    | next before digit =>
      obtain ⟨rfl, same⟩ := List.append_inj' shape rfl
      cases same
      exact ⟨_, _, digit, rfl, .inr before⟩
  · rintro ⟨before, value, digit, rfl, ⟨rfl, rfl⟩ | is⟩
    · rw [Nat.zero_mul, Nat.zero_add]
      exact .single digit
    · exact .next is digit

/-- Hexadecimal digits are read one behind the other. -/
theorem readHexadecimal_iff :
    digits.foldl (fun total c => do some ((← total) * 16 + (← hexDigit? c))) (some 0) = some number ↔
      digits = [] ∧ number = 0 ∨ Digits 16 digits number := by
  induction digits using List.reverseRecOn generalizing number with
  | nil => simp [not_digits_nil, eq_comm]
  | append_singleton front c ih =>
    simp only [List.foldl_append, List.foldl_cons, List.foldl_nil, hexDigit?_eq,
      Option.bind_eq_bind, Option.bind_eq_some_iff, Option.some.injEq] at ih ⊢
    rw [digits_concat_iff]
    constructor
    · rintro ⟨before, read, value, digit, rfl⟩
      exact .inr ⟨before, value, digit, rfl, ih.mp read⟩
    · rintro (⟨none_, -⟩ | ⟨before, value, digit, rfl, is⟩)
      · simp at none_
      · exact ⟨before, ih.mpr is, value, digit, rfl⟩

theorem readDecimal_iff :
    digits.all Char.isDigit = true ∧ Decimal.ofDigits 0 digits = number ↔
      digits = [] ∧ number = 0 ∨ Digits 10 digits number := by
  induction digits using List.reverseRecOn generalizing number with
  | nil => simp [not_digits_nil, eq_comm, Decimal.ofDigits]
  | append_singleton front c ih =>
    have step : Decimal.ofDigits 0 (front ++ [c])
        = Decimal.ofDigits 0 front * 10 + Decimal.digitValue c := by
      simp [Decimal.ofDigits]
    rw [digits_concat_iff, step, List.all_append, List.all_cons, List.all_nil, Bool.and_true,
      Bool.and_eq_true]
    constructor
    · rintro ⟨⟨plain, digit⟩, rfl⟩
      refine .inr ⟨_, _, ?_, rfl, ih.mp ⟨plain, rfl⟩⟩
      rw [digitIn?_ten, if_pos digit]
    · rintro (⟨none_, -⟩ | ⟨before, value, digit, rfl, is⟩)
      · simp at none_
      · obtain ⟨plain, rfl⟩ := ih.mpr is
        rw [digitIn?_ten] at digit
        split at digit
        · rename_i isDigit
          cases digit
          exact ⟨⟨plain, isDigit⟩, rfl⟩
        · cases digit

/-- Digits of every base are among the digits of the largest one. -/
theorem Digits.digit (is : Digits base digits number) :
    ∀ c ∈ digits, c.toLower ∈ "0123456789abcdef".toList := by
  have known {c : Char} {value : Nat} (digit : digitIn? base c = some value) :
      c.toLower ∈ "0123456789abcdef".toList := by
    by_contra absent
    rw [digitIn?, List.idxOf?_eq_none_iff.mpr (fun member => absent (List.mem_of_mem_take member))] at digit
    cases digit
  induction is with
  | single digit => simpa using known digit
  | next _ digit ih =>
    intro c member
    rcases List.mem_append.mp member with before | last
    · exact ih c before
    · rw [List.mem_singleton.mp last]
      exact known digit

theorem not_digits_plus : ¬Digits base ('+' :: chars) number := fun is =>
  absurd (is.digit '+' List.mem_cons_self) (by decide)

/-- Digits that may have a plus sign in front of them. -/
def SignedDigits (base : Nat) (chars : List Char) (number : Nat) : Prop :=
  Digits base chars number ∨ ∃ digits, chars = '+' :: digits ∧ Digits base digits number

theorem signedDigits_iff :
    SignedDigits base chars number ↔
      Digits base (if chars.head? == some '+' then chars.drop 1 else chars) number := by
  unfold SignedDigits
  by_cases plus : chars.head? = some '+'
  · obtain ⟨rest, rfl⟩ := List.head?_eq_some_iff.mp plus
    simp [not_digits_plus]
  · have none_ : ¬∃ digits, chars = '+' :: digits ∧ Digits base digits number := by
      rintro ⟨digits, rfl, -⟩
      exact plus rfl
    simp [plus, none_]

theorem hexNumber?_eq_some_iff : hexNumber? chars = some number ↔ SignedDigits 16 chars number := by
  rw [signedDigits_iff, hexNumber?]
  generalize (if chars.head? == some '+' then chars.drop 1 else chars) = body
  cases body with
  | nil => simp [not_digits_nil]
  | cons c rest =>
    rw [if_neg (by simp), readHexadecimal_iff]
    simp

theorem readNat?_eq_some_iff {limit : Nat} :
    Decimal.readNat? limit chars = some number ↔ SignedDigits 10 chars number ∧ number ≤ limit := by
  rw [signedDigits_iff, Decimal.readNat?]
  generalize (if chars.head? == some '+' then chars.drop 1 else chars) = body
  have read : body.all Char.isDigit = true ∧ Decimal.ofDigits 0 body = number ↔
      body = [] ∧ number = 0 ∨ Digits 10 body number := readDecimal_iff
  cases body with
  | nil => simp [not_digits_nil]
  | cons c rest =>
    rw [or_iff_right (by simp)] at read
    rw [← read]
    by_cases plain : (c :: rest).all Char.isDigit = true
    · simp only [plain, List.isEmpty_cons, Bool.not_true, Bool.or_false, Bool.false_eq_true, if_false,
        Option.ite_none_right_eq_some, Option.some.injEq, true_and]
      constructor
      · rintro ⟨small, rfl⟩
        exact ⟨rfl, small⟩
      · rintro ⟨rfl, small⟩
        exact ⟨small, rfl⟩
    · simp [plain]

end Digits

section References
variable {inner digits : List Char} {image : Char} {code : Nat}

theorem charOfCode?_eq_some_iff :
    charOfCode? code = some image ↔ code.isValidChar ∧ Char.ofNat code = image := by
  simp [charOfCode?]

theorem referent?_decimal (unmarked : ∀ mark ∈ digits.head?, mark ≠ 'x' ∧ mark ≠ 'X') :
    referent? ('#' :: digits) = (Decimal.readNat? 4294967295 digits).bind charOfCode? := by
  unfold referent?
  split
  case h_1 | h_2 | h_3 | h_4 | h_5 =>
    rename_i named
    cases named
  case h_6 | h_7 =>
    rename_i marked
    cases marked
    simp at unmarked
  case h_8 =>
    rename_i same
    cases same
    rfl
  case h_9 =>
    rename_i other
    exact (other digits rfl).elim

theorem referent?_hexadecimal {mark : Char} (marked : mark = 'x' ∨ mark = 'X') :
    referent? ('#' :: mark :: digits) = (hexNumber? digits).bind charOfCode? := by
  rcases marked with rfl | rfl <;> rfl

/-- What is read of the digits of a code is a reference with or without a sign. -/
theorem SignedDigits.decimal (is : SignedDigits 10 digits code) (valid : code.isValidChar) :
    Taken ('#' :: digits) (Char.ofNat code) := by
  rcases is with plain | ⟨digits, rfl, signed⟩
  · exact .inl (.code (.decimal plain valid))
  · exact .inr (.decimal signed valid)

theorem SignedDigits.hexadecimal {mark : Char} (marked : mark = 'x' ∨ mark = 'X')
    (is : SignedDigits 16 digits code) (valid : code.isValidChar) :
    Taken ('#' :: mark :: digits) (Char.ofNat code) := by
  rcases is with plain | ⟨digits, rfl, signed⟩
  · exact .inl (.code (.hexadecimal marked plain valid))
  · exact .inr (.hexadecimal marked signed valid)

theorem SignedDigits.unmarked (is : SignedDigits 10 digits code) :
    ∀ mark ∈ digits.head?, mark ≠ 'x' ∧ mark ≠ 'X' := by
  intro mark first
  rcases is with plain | ⟨digits, rfl, -⟩
  · have digit := plain.digit mark (List.mem_of_mem_head? first)
    constructor <;>
    · rintro rfl
      exact absurd digit (by decide)
  · cases first
    decide

/-- Signs in front of digits that decoding allows. -/
def IsSign (sign : List Char) : Prop := sign = [] ∨ sign = ['+']

theorem signedDigits_append {base : Nat} {sign : List Char} (allowed : IsSign sign)
    (is : Digits base digits code) : SignedDigits base (sign ++ digits) code := by
  rcases allowed with rfl | rfl
  · exact .inl is
  · exact .inr ⟨digits, rfl, is⟩

theorem CodeReference.referent? {sign : List Char} (allowed : IsSign sign)
    (is : CodeReference sign inner image) : Xml.referent? inner = some image := by
  cases is with
  | @decimal digits code is valid =>
    have read := signedDigits_append allowed is
    have small : code ≤ 4294967295 := by
      unfold Nat.isValidChar at valid
      omega
    rw [referent?_decimal read.unmarked, readNat?_eq_some_iff.mpr ⟨read, small⟩]
    exact charOfCode?_eq_some_iff.mpr ⟨valid, rfl⟩
  | hexadecimal marked is valid =>
    rw [referent?_hexadecimal marked, hexNumber?_eq_some_iff.mpr (signedDigits_append allowed is)]
    exact charOfCode?_eq_some_iff.mpr ⟨valid, rfl⟩

theorem referent?_eq_some_iff : referent? inner = some image ↔ Taken inner image := by
  constructor
  · intro found
    unfold referent? at found
    split at found
    case h_1 => cases found; exact .inl .less
    case h_2 => cases found; exact .inl .greater
    case h_3 => cases found; exact .inl .ampersand
    case h_4 => cases found; exact .inl .quote
    case h_5 => cases found; exact .inl .apostrophe
    case h_6 | h_7 =>
      obtain ⟨code, read, is⟩ := Option.bind_eq_some_iff.mp found
      obtain ⟨valid, rfl⟩ := charOfCode?_eq_some_iff.mp is
      exact (hexNumber?_eq_some_iff.mp read).hexadecimal (by simp) valid
    case h_8 =>
      obtain ⟨code, read, is⟩ := Option.bind_eq_some_iff.mp found
      obtain ⟨valid, rfl⟩ := charOfCode?_eq_some_iff.mp is
      exact (readNat?_eq_some_iff.mp read).1.decimal valid
    case h_9 => cases found
  · rintro (is | is)
    · cases is with
      | code is => exact is.referent? (.inl rfl)
      | _ => rfl
    · exact is.referent? (.inr rfl)

/-- The characters of a code are its marks, its sign and digits. -/
theorem CodeReference.forall_mem {sign : List Char} {allowed : Char → Prop}
    (is : CodeReference sign inner image) (marks : allowed '#' ∧ allowed 'x' ∧ allowed 'X')
    (inSign : ∀ c ∈ sign, allowed c)
    (inDigits : ∀ c, c.toLower ∈ "0123456789abcdef".toList → allowed c) : ∀ c ∈ inner, allowed c := by
  cases is with
  | decimal digits =>
    rw [List.forall_mem_cons, List.forall_mem_append]
    exact ⟨marks.1, inSign, fun c member => inDigits c (digits.digit c member)⟩
  | hexadecimal marked digits =>
    rw [List.forall_mem_cons, List.forall_mem_cons, List.forall_mem_append]
    refine ⟨marks.1, ?_, inSign, fun c member => inDigits c (digits.digit c member)⟩
    rcases marked with rfl | rfl
    · exact marks.2.1
    · exact marks.2.2

/-- A reference starts at its ampersand and ends at its semicolon. -/
theorem Taken.free (taken : Taken inner image) : '&' ∉ inner ∧ ';' ∉ inner := by
  have coded {sign : List Char} (allowed : IsSign sign) (is : CodeReference sign inner image) :
      '&' ∉ inner ∧ ';' ∉ inner := by
    have all : ∀ c ∈ inner, c ≠ '&' ∧ c ≠ ';' := by
      refine is.forall_mem (by decide) ?_ fun c digit => ?_
      · rcases allowed with rfl | rfl <;> simp
      · constructor <;>
        · rintro rfl
          exact absurd digit (by decide)
    exact ⟨fun member => (all _ member).1 rfl, fun member => (all _ member).2 rfl⟩
  rcases taken with is | is
  · cases is with
    | code is => exact coded (.inl rfl) is
    | _ => decide
  · exact coded (.inr rfl) is

/-- A reference of the grammar has no sign. -/
theorem Reference.not_signed {other : Char} (is : Reference inner image) :
    ¬SignedReference inner other := by
  intro signed
  have present : '+' ∈ inner := by cases signed <;> simp
  cases is with
  | code is =>
    have all : ∀ c ∈ inner, c ≠ '+' := by
      refine is.forall_mem (by decide) (by simp) fun c digit => ?_
      rintro rfl
      exact absurd digit (by decide)
    exact all '+' present rfl
  | _ => exact absurd present (by decide)

theorem reference?_eq_some_iff {chars after : List Char} :
    reference? chars = some (image, after) ↔
      ∃ inner, Taken inner image ∧ writtenReference inner ++ after = '&' :: chars := by
  constructor
  · intro found
    unfold reference? at found
    split at found
    · rename_i inner rest cutOff
      obtain ⟨other, read, same⟩ := Option.map_eq_some_iff.mp found
      cases same
      obtain ⟨-, rfl⟩ := Text.endsAt_of_cutAt? (by simp) cutOff
      exact ⟨inner, referent?_eq_some_iff.mp read, by simp [writtenReference]⟩
    · cases found
  · rintro ⟨inner, is, shape⟩
    obtain rfl : inner ++ ';' :: after = chars := by simpa [writtenReference] using shape
    rw [reference?_semicolon is.free.2, referent?_eq_some_iff.mpr is]
    rfl

end References

section Decoding
variable {text out rest : List Char}

theorem decodeReferences_taken {inner : List Char} {image : Char} (is : Taken inner image)
    (rest : List Char) :
    decodeReferences (writtenReference inner ++ rest) = image :: decodeReferences rest :=
  decodeReferences_reference
    (reference?_eq_some_iff.mpr ⟨inner, is, by simp [writtenReference]⟩)

/-- Where no reference starts the character is copied. -/
theorem decodeReferences_other {c : Char}
    (none_ : ∀ inner image, Taken inner image → ¬writtenReference inner <+: c :: rest) :
    decodeReferences (c :: rest) = c :: decodeReferences rest := by
  by_cases sign : c = '&'
  · subst sign
    apply decodeReferences_no_reference
    rw [Option.eq_none_iff_forall_ne_some]
    rintro ⟨image, after⟩ found
    obtain ⟨inner, is, shape⟩ := reference?_eq_some_iff.mp found
    exact none_ inner image is ⟨after, shape⟩
  · exact decodeReferences_plain sign rest

theorem decodeReferences_replaced (text : List Char) : Replaced Taken text (decodeReferences text) := by
  fun_induction decodeReferences text with
  | case1 => exact .done
  | case2 c rest sign image after found ih =>
    obtain ⟨inner, is, shape⟩ := reference?_eq_some_iff.mp found
    rw [eq_of_beq sign, ← shape]
    exact .reference is ih
  | case3 c rest sign none_ ih =>
    rw [eq_of_beq sign]
    refine .other (fun inner image is => ?_) ih
    rintro ⟨after, shape⟩
    rw [reference?_eq_some_iff.mpr ⟨inner, is, shape⟩] at none_
    cases none_
  | case4 c rest plain ih =>
    refine .other (fun inner image is => ?_) ih
    rintro ⟨after, shape⟩
    cases shape
    exact plain rfl

theorem Replaced.eq_decodeReferences (replaced : Replaced Taken text out) :
    out = decodeReferences text := by
  induction replaced with
  | done => rw [decodeReferences]
  | reference is _ ih => rw [decodeReferences_taken is, ih]
  | other none_ _ ih => rw [decodeReferences_other none_, ih]

/-- Without signed references the grammar has all that is taken. -/
theorem Replaced.of_unsigned (replaced : Replaced Taken text out)
    (unsigned : ∀ inner image, SignedReference inner image → ¬writtenReference inner <:+: text) :
    Replaced Reference text out := by
  induction replaced with
  | done => exact .done
  | @reference inner rest out image is _ ih =>
    have behind := ih fun other image signed inside =>
      unsigned other image signed (inside.trans (List.suffix_append ..).isInfix)
    rcases is with plain | signed
    · exact .reference plain behind
    · exact absurd (List.prefix_append ..).isInfix (unsigned inner image signed)
  | @other c rest out none_ _ ih =>
    refine .other (fun inner image is => none_ inner image (.inl is)) ?_
    exact ih fun inner image signed inside =>
      unsigned inner image signed (inside.trans (List.suffix_cons ..).isInfix)

theorem decodeReferences_append_plain {front : List Char} (plain : '&' ∉ front) (rest : List Char) :
    decodeReferences (front ++ rest) = front ++ decodeReferences rest := by
  induction front with
  | nil => rfl
  | cons c front ih =>
    rw [List.mem_cons, not_or] at plain
    rw [List.cons_append, decodeReferences_plain (Ne.symm plain.1), ih plain.2, List.cons_append]

/-- References do not overlap. -/
theorem infix_behind {inner other : List Char} {image otherImage : Char} (taken : Taken inner image)
    (also : Taken other otherImage)
    (inside : writtenReference other <:+: writtenReference inner ++ rest) :
    other = inner ∨ writtenReference other <:+: rest := by
  obtain ⟨front, back, shape⟩ := inside
  cases front with
  | nil =>
    left
    have same : other ++ ';' :: back = inner ++ ';' :: rest := by simpa [writtenReference] using shape
    have cut := Text.cutAt?_of_not_mem also.free.2 back
    rw [same, Text.cutAt?_of_not_mem taken.free.2] at cut
    cases cut
    rfl
  | cons c front =>
    right
    have behind : front ++ (writtenReference other ++ back) = (inner ++ [';']) ++ rest := by
      rw [← List.append_assoc]
      exact (List.cons.inj shape).2
    rcases List.append_eq_append_iff.mp behind with ⟨middle, whole, later⟩ | ⟨middle, -, later⟩
    · cases middle with
      | nil => exact ⟨[], back, later⟩
      | cons d middle =>
        obtain ⟨rfl, -⟩ := List.cons.inj later
        have sign : '&' ∈ inner ++ [';'] := by simp [whole]
        exact absurd sign (by simp [taken.free.1])
    · exact ⟨middle, back, by rw [later, List.append_assoc]⟩

/-- What decoding takes besides the grammar makes its text shorter. -/
theorem Replaced.length_le (replaced : Replaced Reference text out) :
    (decodeReferences text).length ≤ out.length ∧
      ∀ inner image, SignedReference inner image → writtenReference inner <:+: text →
        (decodeReferences text).length < out.length := by
  induction replaced with
  | done =>
    refine ⟨by simp [decodeReferences], ?_⟩
    intro inner image _ inside
    simp [writtenReference] at inside
  | @reference inner rest out image is _ ih =>
    rw [decodeReferences_taken (.inl is), List.length_cons, List.length_cons]
    refine ⟨by omega, ?_⟩
    intro other otherImage signed inside
    rcases infix_behind (.inl is) (.inr signed) inside with rfl | behind
    · exact absurd signed is.not_signed
    · have shorter := ih.2 other otherImage signed behind
      omega
  | @other c rest out none_ _ ih =>
    rw [List.length_cons]
    -- A signed reference that starts here is copied by the grammar and replaced by decoding.
    have here {inner : List Char} {image : Char} (signed : SignedReference inner image)
        (starts : writtenReference inner <+: c :: rest) :
        (decodeReferences (c :: rest)).length < out.length + 1 := by
      obtain ⟨after, shape⟩ := starts
      have behind : rest = (inner ++ [';']) ++ after := (List.cons.inj shape).2.symm
      have copied : decodeReferences rest = (inner ++ [';']) ++ decodeReferences after := by
        have plain : '&' ∉ inner ++ [';'] := by simp [Taken.free (.inr signed)]
        rw [behind, decodeReferences_append_plain plain]
      have long := congrArg List.length copied
      rw [← shape, decodeReferences_taken (.inr signed)]
      simp only [List.length_append, List.length_cons, List.length_nil] at long ⊢
      omega
    by_cases starts : ∃ inner image, SignedReference inner image ∧ writtenReference inner <+: c :: rest
    · obtain ⟨inner, image, signed, begins⟩ := starts
      have shorter := here signed begins
      exact ⟨by omega, fun _ _ _ _ => shorter⟩
    · have copied : decodeReferences (c :: rest) = c :: decodeReferences rest := by
        apply decodeReferences_other
        rintro inner image (plain | signed) begins
        · exact none_ inner image plain begins
        · exact starts ⟨inner, image, signed, begins⟩
      rw [copied, List.length_cons]
      refine ⟨by omega, ?_⟩
      intro inner image signed inside
      rcases List.infix_cons_iff.mp inside with begins | behind
      · exact absurd ⟨inner, image, signed, begins⟩ starts
      · have shorter := ih.2 inner image signed behind
        omega

/-- Decoding replaces all that it takes for a reference, and that is what the grammar has exactly if no
code with a plus sign in front of its digits is in the text. -/
theorem decodes_iff_unsigned (text : List Char) :
    (∀ out, Replaced Taken text out ↔ out = decodeReferences text) ∧
      (Replaced Reference text (decodeReferences text) ↔
        ∀ inner image, SignedReference inner image → ¬writtenReference inner <:+: text) := by
  refine ⟨fun out => ⟨Replaced.eq_decodeReferences, ?_⟩, ?_, ?_⟩
  · rintro rfl
    exact decodeReferences_replaced text
  · intro replaced inner image signed inside
    exact absurd (replaced.length_le.2 inner image signed inside) (Nat.lt_irrefl _)
  · exact (decodeReferences_replaced text).of_unsigned

/-- The code of a letter with a plus sign in front of it is replaced, which the grammar does not have. -/
theorem decodes_iff_unsigned_plus :
    decodeReferences "&#+65;".toList = ['A'] ∧ ¬Replaced Reference "&#+65;".toList ['A'] := by
  have decoded : decodeReferences "&#+65;".toList = ['A'] := by decide +kernel
  refine ⟨decoded, fun replaced => ?_⟩
  rw [← decoded, (decodes_iff_unsigned "&#+65;".toList).2] at replaced
  have first : Digits 10 ['6'] 6 := .single (by decide)
  have digits : Digits 10 (['6'] ++ ['5']) (6 * 10 + 5) := first.next (by decide)
  exact replaced _ 'A' (.decimal digits (by decide)) ⟨[], [], rfl⟩

end Decoding

end ApiProbe.Xml
