import ApiProbe.Proofs.Json.Quoting
import ApiProbe.Proofs.Decimal.Written

/-!
Reading undoes writing. The indented text of a document without fractions is read back as the same
document, or as that with the members of its objects in key order.
-/
namespace ApiProbe.Json

mutual

/-- Documents that can be read back: whole numbers in range, no others, and no more than so many
levels of lists and objects. -/
def Readable (depth : Nat) : Json → Prop
  | .null | .bool _ | .str _ => True
  | .int n => -(Int.ofNat (Nat.pow 2 63)) ≤ n ∧ n ≤ Number.maxWhole
  | .float _ => False
  | .arr items => 0 < depth ∧ ReadableItems (depth - 1) items
  | .obj members => 0 < depth ∧ ReadableMembers (depth - 1) members

def ReadableItems (depth : Nat) : List Json → Prop
  | [] => True
  | item :: rest => Readable depth item ∧ ReadableItems depth rest

def ReadableMembers (depth : Nat) : List (String × Json) → Prop
  | [] => True
  | (_, value) :: rest => Readable depth value ∧ ReadableMembers depth rest

end

section Spaces
variable {c : Char}

theorem skipSpaces_visible {rest : List Char} (visible : Cursor.isSpace c = false) (place : Place) :
    Cursor.skipSpaces ⟨c :: rest, place⟩ = ⟨c :: rest, place⟩ := by
  simp [Cursor.skipSpaces, visible, Cursor.skipMany]

theorem skipSpaces_cons (space : Cursor.isSpace c = true) (rest : List Char) (place : Place) :
    Cursor.skipSpaces ⟨c :: rest, place⟩ = Cursor.skipSpaces ⟨rest, place.after c⟩ := by
  simp [Cursor.skipSpaces, space, Cursor.skipMany, Cursor.skip]

/-- The start of a line is passed over. -/
theorem skipSpaces_margin (level : Nat) (visible : Cursor.isSpace c = false) (rest : List Char)
    (place : Place) :
    ∃ after, Cursor.skipSpaces ⟨(margin level).toList ++ c :: rest, place⟩ = ⟨c :: rest, after⟩ := by
  have blanks (n : Nat) (place : Place) :
      ∃ after, Cursor.skipSpaces ⟨List.replicate n ' ' ++ c :: rest, place⟩ = ⟨c :: rest, after⟩ := by
    induction n generalizing place with
    | zero => exact ⟨place, skipSpaces_visible visible place⟩
    | succ n ih =>
      rw [List.replicate_succ, List.cons_append, skipSpaces_cons rfl]
      exact ih (place.after ' ')
  have shape : (margin level).toList ++ c :: rest
      = '\n' :: (List.replicate (2 * level) ' ' ++ c :: rest) := by
    simp [margin]
  rw [shape, skipSpaces_cons rfl]
  exact blanks (2 * level) (place.after '\n')

end Spaces

theorem margin_length (level : Nat) : 1 ≤ (margin level).toList.length := by
  simp [margin]

/-- What ends a number: nothing, a comma or a line end. -/
def Bounded (rest : List Char) : Prop := ∀ c, rest.head? = some c → c = ',' ∨ c = '\n'

theorem bounded_nil : Bounded [] := by
  rintro c ⟨⟩

theorem bounded_margin (level : Nat) (rest : List Char) : Bounded ((margin level).toList ++ rest) := by
  rintro c first
  simp only [margin, String.toList_append, List.append_assoc] at first
  cases first
  exact .inr rfl

/-- How the text of a value starts: not with a space, a closing bracket or a comma. -/
def Starts (c : Char) : Prop := Cursor.isSpace c = false ∧ c ≠ ']' ∧ c ≠ ','

theorem starts_numeral {c : Char} (numeral : Decimal.isNumeral c = true) : Starts c := by
  refine ⟨?_, Decimal.ne_of_isNumeral numeral _ rfl, Decimal.ne_of_isNumeral numeral _ rfl⟩
  simp only [Cursor.isSpace, Bool.or_eq_false_iff, beq_eq_false_iff_ne]
  exact ⟨⟨⟨Decimal.ne_of_isNumeral numeral _ rfl, Decimal.ne_of_isNumeral numeral _ rfl⟩,
    Decimal.ne_of_isNumeral numeral _ rfl⟩, Decimal.ne_of_isNumeral numeral _ rfl⟩

theorem quoted_append (text : String) (rest : List Char) :
    (quoted text).toList ++ rest = '"' :: (text.toList.flatMap escapeChar ++ '"' :: rest) := by
  simp [quoted]

/-- The texts of a list and of an object, part by part. -/
theorem toList_indented_arr (level : Nat) (item : Json) (rest : List Json) :
    (indented level (.arr (item :: rest))).toList = '[' :: ((margin (level + 1)).toList ++
      ((indented (level + 1) item).toList ++ ((indentedItems (level + 1) rest).toList ++
        ((margin level).toList ++ [']'])))) := by
  rw [indented]
  simp

theorem toList_indented_obj (level : Nat) (key : String) (value : Json)
    (rest : List (String × Json)) :
    (indented level (.obj ((key, value) :: rest))).toList = '{' :: ((margin (level + 1)).toList ++
      ((quoted key).toList ++ ':' :: ' ' :: ((indented (level + 1) value).toList ++
        ((indentedMembers (level + 1) rest).toList ++ ((margin level).toList ++ ['}']))))) := by
  rw [indented]
  simp

theorem toList_indentedItems (level : Nat) (item : Json) (rest : List Json) :
    (indentedItems level (item :: rest)).toList = ',' :: ((margin level).toList ++
      ((indented level item).toList ++ (indentedItems level rest).toList)) := by
  rw [indentedItems]
  simp

theorem toList_indentedMembers (level : Nat) (key : String) (value : Json)
    (rest : List (String × Json)) :
    (indentedMembers level ((key, value) :: rest)).toList = ',' :: ((margin level).toList ++
      ((quoted key).toList ++ ':' :: ' ' :: ((indented level value).toList ++
        (indentedMembers level rest).toList))) := by
  rw [indentedMembers]
  simp

theorem indented_cons {depth : Nat} {document : Json} (readable : Readable depth document)
    (level : Nat) : ∃ c tail, (indented level document).toList = c :: tail ∧ Starts c := by
  cases document with
  | null => exact ⟨'n', _, by rw [indented]; rfl, by unfold Starts; decide⟩
  | bool value =>
    cases value with
    | true => exact ⟨'t', _, by rw [indented]; rfl, by unfold Starts; decide⟩
    | false => exact ⟨'f', _, by rw [indented]; rfl, by unfold Starts; decide⟩
  | int n =>
    obtain ⟨some_, numerals⟩ := Decimal.toString_numeral n
    obtain ⟨c, tail, shape⟩ := List.exists_cons_of_ne_nil some_
    exact ⟨c, tail, by rw [indented]; exact shape,
      starts_numeral (numerals c (by rw [shape]; exact List.mem_cons_self))⟩
  | float x =>
    rw [Readable] at readable
    exact readable.elim
  | str text =>
    have shape := quoted_append text []
    rw [List.append_nil] at shape
    exact ⟨'"', _, by rw [indented]; exact shape, by unfold Starts; decide⟩
  | arr items =>
    cases items with
    | nil => exact ⟨'[', _, by rw [indented]; rfl, by unfold Starts; decide⟩
    | cons item rest => exact ⟨'[', _, toList_indented_arr level item rest, by unfold Starts; decide⟩
  | obj members =>
    cases members with
    | nil => exact ⟨'{', _, by rw [indented]; rfl, by unfold Starts; decide⟩
    | cons member rest =>
      obtain ⟨key, value⟩ := member
      exact ⟨'{', _, toList_indented_obj level key value rest, by unfold Starts; decide⟩

theorem skipMany_append (front rest : List Char) (place : Place) :
    ∃ after, Cursor.skipMany front.length ⟨front ++ rest, place⟩ = ⟨rest, after⟩ := by
  induction front generalizing place with
  | nil => exact ⟨place, rfl⟩
  | cons c more ih => exact ih (place.after c)

namespace Number

theorem absorb_digits {start : Nat} (digits : List Char)
    (fits : Decimal.ofDigits start digits ≤ maxWhole) :
    absorb start digits = (Decimal.ofDigits start digits, digits.length) := by
  induction digits generalizing start with
  | nil => rfl
  | cons c rest ih =>
    have grows (start : Nat) (digits : List Char) : start ≤ Decimal.ofDigits start digits := by
      induction digits generalizing start with
      | nil => exact Nat.le_refl start
      | cons d more ih => exact Nat.le_trans (by omega) (ih (start * 10 + Decimal.digitValue d))
    have below : start * 10 + Decimal.digitValue c ≤ maxWhole := Nat.le_trans (grows _ rest) fits
    rw [absorb, if_neg (Nat.not_lt.mpr below), ih fits]
    rfl

/-- Only zero is written with a zero in front. -/
theorem toDigits_zero {n : Nat} {tail : List Char} (shape : Nat.toDigits 10 n = '0' :: tail) :
    tail = [] := by
  induction n using Nat.strongRecOn generalizing tail with
  | ind n ih =>
    by_cases small : n < 10
    · rw [Nat.toDigits_of_lt_base small] at shape
      exact (List.cons.inj shape).2.symm
    · have large : 10 ≤ n := Nat.not_lt.mp small
      rw [Nat.toDigits_of_base_le (by decide) large] at shape
      obtain ⟨c, more, front⟩ := List.exists_cons_of_ne_nil (Nat.toDigits_ne_nil (n := n / 10) (b := 10))
      rw [front, List.cons_append] at shape
      cases shape
      have single := ih (n / 10) (by omega) front
      subst single
      have value := Nat.ofDigitChars_toDigits (b := 10) (n := n / 10) (by decide) (by decide)
      rw [front] at value
      have zero : n / 10 = 0 := by simpa [Nat.ofDigitChars] using value.symm
      omega

/-- The digits of a whole number are read up to what ends it. -/
theorem read_digits {n : Nat} (fits : n ≤ maxWhole) (negative : Bool) {rest : List Char}
    (bounded : Bounded rest) (place : Place) :
    Yields (Number.read ⟨Nat.toDigits 10 n ++ rest, place⟩ negative) (whole negative n) rest := by
  obtain ⟨c, tail, shape⟩ := List.exists_cons_of_ne_nil (Nat.toDigits_ne_nil (n := n) (b := 10))
  have all := List.all_eq_true.mp (Decimal.all_isDigit_toDigits n)
  rw [shape] at all
  have ends : ∀ d, rest.head? = some d → d.isDigit = false := by
    intro d first
    rcases bounded d first with rfl | rfl <;> rfl
  have taken := (Text.span_of_boundary Char.isDigit all ends).1
  have none_ : rest.takeWhile Char.isDigit = [] := by
    cases rest with
    | nil => rfl
    | cons d more => exact List.takeWhile_cons_of_neg (by simp [ends d rfl])
  have alone : (if c == '0' then [c] else c :: tail) = c :: tail := by
    split
    · rename_i zero
      rw [beq_iff_eq.mp zero] at shape
      rw [toDigits_zero shape]
    · rfl
  have value : Decimal.ofDigits 0 (c :: tail) = n := by
    rw [← shape, Decimal.ofDigits_eq, Nat.ofDigitChars_toDigits (by decide) (by decide)]
  have absorbed := absorb_digits (c :: tail) (by rw [value]; exact fits)
  obtain ⟨after, moved⟩ := skipMany_append (c :: tail) rest place
  have noMark : isExponentMark rest = false := by
    cases rest with
    | nil => rfl
    | cons d more => rcases bounded d rfl with rfl | rfl <;> rfl
  refine ⟨after, ?_⟩
  rw [shape]
  rw [List.cons_append] at taken moved ⊢
  simp only [Number.read, Cursor.digits, all c List.mem_cons_self, taken, alone, absorbed, value,
    moved, none_, Bool.not_true, Bool.false_eq_true, if_false, List.isEmpty_nil, Bool.and_false,
    Nat.sub_self]
  split
  · rcases bounded '.' rfl with same | same <;> cases same
  · simp only [noMark, Bool.false_eq_true, if_false]
    rfl

end Number

theorem readValue_digit {c : Char} (digit : c.isDigit = true) (fuel depth : Nat) (rest : List Char)
    (place : Place) : readValue (fuel + 1) depth ⟨c :: rest, place⟩ =
      Number.read ⟨c :: rest, place⟩ false := by
  have other {d : Char} (foreign : d.isDigit = false) : (c == d) = false := by
    rw [beq_eq_false_iff_ne]
    rintro rfl
    rw [digit] at foreign
    cases foreign
  have visible := (starts_numeral (c := c) (by simp [Decimal.isNumeral, digit])).1
  rw [readValue, skipSpaces_visible visible]
  simp only [@other 'n' rfl, @other 't' rfl, @other 'f' rfl, @other '-' rfl, digit,
    Bool.false_eq_true, if_false, if_true]

theorem readValue_minus (fuel depth : Nat) (rest : List Char) (place : Place) :
    readValue (fuel + 1) depth ⟨'-' :: rest, place⟩ =
      Number.read ⟨rest, place.after '-'⟩ true := by
  rw [readValue, skipSpaces_visible rfl]
  rfl

/-- A whole number is read up to what ends it. -/
theorem readValue_int {n : Int} (low : -(Int.ofNat (Nat.pow 2 63)) ≤ n) (high : n ≤ Number.maxWhole)
    (fuel depth : Nat) {rest : List Char} (bounded : Bounded rest) (place : Place) :
    Yields (readValue (fuel + 1) depth ⟨(toString n).toList ++ rest, place⟩) (.int n) rest := by
  cases n with
  | ofNat n =>
    change Yields (readValue (fuel + 1) depth ⟨(toString n).toList ++ rest, place⟩) _ rest
    have fits : n ≤ Number.maxWhole := Int.ofNat_le.mp high
    have done := Number.read_digits fits false bounded place
    obtain ⟨c, tail, shape⟩ := List.exists_cons_of_ne_nil (Nat.toDigits_ne_nil (n := n) (b := 10))
    have digit : c.isDigit = true :=
      List.all_eq_true.mp (Decimal.all_isDigit_toDigits n) c (by rw [shape]; exact List.mem_cons_self)
    rw [Decimal.toList_ofNat]
    rw [shape, List.cons_append] at done ⊢
    rw [readValue_digit digit]
    exact done
  | negSucc n =>
    have fits : n + 1 ≤ Nat.pow 2 63 := by
      simp only [Int.ofNat_eq_natCast] at low
      omega
    have inRange : n + 1 ≤ Number.maxWhole := Nat.le_trans fits (by decide)
    have value : Number.whole true (n + 1) = .int (Int.negSucc n) := by
      have notLarge : ¬Nat.pow 2 63 < n + 1 := by omega
      simp only [Number.whole, Bool.not_true, Bool.false_eq_true, if_false, gt_iff_lt, notLarge,
        decide_false, Bool.or_false, Nat.add_eq_zero_iff, beq_iff_eq]
      exact if_neg (by omega)
    rw [Decimal.toList_negSucc, List.cons_append, readValue_minus, ← value]
    exact Number.read_digits inRange true bounded (place.after '-')

theorem readValue_quoted (text : String) (fuel depth : Nat) (rest : List Char) (place : Place) :
    Yields (readValue (fuel + 1) depth ⟨(quoted text).toList ++ rest, place⟩) (.str text) rest := by
  obtain ⟨after, done⟩ := Str.read_quoted text rest (place.after '"')
  refine ⟨after, ?_⟩
  rw [quoted_append, readValue, skipSpaces_visible rfl]
  change (Str.read ⟨text.toList.flatMap escapeChar ++ '"' :: rest, place.after '"'⟩).map _ = _
  rw [done]
  rfl

/-- A space in front of a value does not matter. -/
theorem readValue_space (fuel depth : Nat) (rest : List Char) (place : Place) :
    readValue (fuel + 1) depth ⟨' ' :: rest, place⟩ =
      readValue (fuel + 1) depth ⟨rest, place.after ' '⟩ := by
  rw [readValue, readValue, skipSpaces_cons rfl]

section Brackets
variable (fuel depth : Nat) (rest : List Char) (place : Place)

theorem readValue_list (room : 0 < depth) : readValue (fuel + 1) depth ⟨'[' :: rest, place⟩ =
    readItems fuel (depth - 1) true [] ⟨rest, place.after '['⟩ := by
  have deep : ¬(depth == 0) = true := by
    rw [beq_iff_eq]
    omega
  rw [readValue, skipSpaces_visible rfl]
  exact if_neg deep

theorem readValue_object (room : 0 < depth) : readValue (fuel + 1) depth ⟨'{' :: rest, place⟩ =
    readMembers fuel (depth - 1) true [] ⟨rest, place.after '{'⟩ := by
  have deep : ¬(depth == 0) = true := by
    rw [beq_iff_eq]
    omega
  rw [readValue, skipSpaces_visible rfl]
  exact if_neg deep

theorem readItems_close (first : Bool) (read : List Json) :
    Yields (readItems (fuel + 1) depth first read ⟨']' :: rest, place⟩) (.arr read.reverse) rest :=
  ⟨place.after ']', by rw [readItems, skipSpaces_visible rfl]; rfl⟩

theorem readMembers_close (first : Bool) (read : List (String × Json)) :
    Yields (readMembers (fuel + 1) depth first read ⟨'}' :: rest, place⟩) (.obj read.reverse) rest :=
  ⟨place.after '}', by rw [readMembers, skipSpaces_visible rfl]; rfl⟩

theorem readItems_end (level : Nat) (first : Bool) (read : List Json) :
    Yields (readItems (fuel + 1) depth first read ⟨(margin level).toList ++ ']' :: rest, place⟩)
      (.arr read.reverse) rest := by
  obtain ⟨after, moved⟩ := skipSpaces_margin (c := ']') level rfl rest place
  refine ⟨after.after ']', ?_⟩
  rw [readItems, moved]
  rfl

theorem readMembers_end (level : Nat) (first : Bool) (read : List (String × Json)) :
    Yields (readMembers (fuel + 1) depth first read ⟨(margin level).toList ++ '}' :: rest, place⟩)
      (.obj read.reverse) rest := by
  obtain ⟨after, moved⟩ := skipSpaces_margin (c := '}') level rfl rest place
  refine ⟨after.after '}', ?_⟩
  rw [readMembers, moved]
  rfl

end Brackets

section Steps
variable {fuel depth : Nat} {value : Json} {chars rest : List Char}

/-- The first item of a list is read behind the start of its line. -/
theorem readItems_first {c : Char} (starts : Starts c) (level : Nat) (place : Place)
    (item : ∀ place, Yields (readValue fuel depth ⟨c :: chars, place⟩) value rest) :
    ∃ after, readItems (fuel + 1) depth true [] ⟨(margin level).toList ++ c :: chars, place⟩ =
      readItems fuel depth false [value] ⟨rest, after⟩ := by
  obtain ⟨visible, notClosing, notComma⟩ := starts
  obtain ⟨start, moved⟩ := skipSpaces_margin level visible chars place
  obtain ⟨after, done⟩ := item start
  refine ⟨after, ?_⟩
  rw [readItems, moved]
  simp only [beq_eq_false_iff_ne.mpr notClosing, beq_eq_false_iff_ne.mpr notComma,
    Bool.false_and, Bool.false_eq_true, if_false, if_true, done]

/-- Another item is read behind a comma and the start of its line. -/
theorem readItems_next {c : Char} (starts : Starts c) (level : Nat) (read : List Json) (place : Place)
    (item : ∀ place, Yields (readValue fuel depth ⟨c :: chars, place⟩) value rest) :
    ∃ after, readItems (fuel + 1) depth false read
        ⟨',' :: ((margin level).toList ++ c :: chars), place⟩ =
      readItems fuel depth false (value :: read) ⟨rest, after⟩ := by
  obtain ⟨visible, notClosing, notComma⟩ := starts
  obtain ⟨start, moved⟩ := skipSpaces_margin level visible chars (place.after ',')
  obtain ⟨after, done⟩ := item start
  refine ⟨after, ?_⟩
  rw [readItems, skipSpaces_visible rfl]
  simp only [Cursor.skip, moved, done]
  rfl

/-- A member is read from its key on. -/
theorem readMember_quoted (key : String) (read : List (String × Json)) (place : Place)
    (member : ∀ place, Yields (readValue (fuel + 1) depth ⟨chars, place⟩) value rest) :
    ∃ after, readMember (fuel + 2) depth read
        ⟨(quoted key).toList ++ ':' :: ' ' :: chars, place⟩ =
      readMembers (fuel + 1) depth false ((key, value) :: read) ⟨rest, after⟩ := by
  obtain ⟨colon, named⟩ := Str.read_quoted key (':' :: ' ' :: chars) (place.after '"')
  obtain ⟨after, done⟩ := member ((colon.after ':').after ' ')
  have visible : Cursor.isSpace ':' = false := rfl
  refine ⟨after, ?_⟩
  rw [quoted_append, readMember]
  simp only [Cursor.skip, named, skipSpaces_visible visible, readValue_space, done]

/-- The first member of an object is read behind the start of its line. -/
theorem readMembers_first (key : String) (level : Nat) (place : Place)
    (member : ∀ place, Yields (readValue (fuel + 1) depth ⟨chars, place⟩) value rest) :
    ∃ after, readMembers (fuel + 3) depth true []
        ⟨(margin level).toList ++ ((quoted key).toList ++ ':' :: ' ' :: chars), place⟩ =
      readMembers (fuel + 1) depth false [(key, value)] ⟨rest, after⟩ := by
  rw [quoted_append]
  obtain ⟨start, moved⟩ := skipSpaces_margin (c := '"') level rfl
    (key.toList.flatMap escapeChar ++ '"' :: ':' :: ' ' :: chars) place
  obtain ⟨after, done⟩ := readMember_quoted key [] start member
  rw [quoted_append] at done
  refine ⟨after, ?_⟩
  rw [readMembers, moved]
  simp only [done]
  rfl

/-- Another member is read behind a comma and the start of its line. -/
theorem readMembers_next (key : String) (level : Nat) (read : List (String × Json)) (place : Place)
    (member : ∀ place, Yields (readValue (fuel + 1) depth ⟨chars, place⟩) value rest) :
    ∃ after, readMembers (fuel + 3) depth false read
        ⟨',' :: ((margin level).toList ++ ((quoted key).toList ++ ':' :: ' ' :: chars)), place⟩ =
      readMembers (fuel + 1) depth false ((key, value) :: read) ⟨rest, after⟩ := by
  rw [quoted_append]
  obtain ⟨start, moved⟩ := skipSpaces_margin (c := '"') level rfl
    (key.toList.flatMap escapeChar ++ '"' :: ':' :: ' ' :: chars) (place.after ',')
  obtain ⟨after, done⟩ := readMember_quoted key read start member
  rw [quoted_append] at done
  refine ⟨after, ?_⟩
  rw [readMembers, skipSpaces_visible rfl]
  simp only [Cursor.skip, moved, done]
  rfl

end Steps

theorem readWord_append (word rest : List Char) (place : Place) :
    ∃ after, readWord word ⟨word ++ rest, place⟩ = .ok ⟨rest, after⟩ := by
  induction word generalizing place with
  | nil => exact ⟨place, rfl⟩
  | cons c more ih =>
    obtain ⟨after, done⟩ := ih (place.after c)
    refine ⟨after, ?_⟩
    rw [List.cons_append, readWord]
    simpa [Cursor.skip] using done

section Words
variable (fuel depth : Nat) (rest : List Char) (place : Place)

theorem readValue_null :
    Yields (readValue (fuel + 1) depth ⟨"null".toList ++ rest, place⟩) .null rest := by
  obtain ⟨after, done⟩ := readWord_append "ull".toList rest (place.after 'n')
  refine ⟨after, ?_⟩
  change readValue (fuel + 1) depth ⟨'n' :: ("ull".toList ++ rest), place⟩ = _
  rw [readValue, skipSpaces_visible rfl]
  exact congrArg (Except.map fun after => (Json.null, after)) done

theorem readValue_true :
    Yields (readValue (fuel + 1) depth ⟨"true".toList ++ rest, place⟩) (.bool true) rest := by
  obtain ⟨after, done⟩ := readWord_append "rue".toList rest (place.after 't')
  refine ⟨after, ?_⟩
  change readValue (fuel + 1) depth ⟨'t' :: ("rue".toList ++ rest), place⟩ = _
  rw [readValue, skipSpaces_visible rfl]
  exact congrArg (Except.map fun after => (Json.bool true, after)) done

theorem readValue_false :
    Yields (readValue (fuel + 1) depth ⟨"false".toList ++ rest, place⟩) (.bool false) rest := by
  obtain ⟨after, done⟩ := readWord_append "alse".toList rest (place.after 'f')
  refine ⟨after, ?_⟩
  change readValue (fuel + 1) depth ⟨'f' :: ("alse".toList ++ rest), place⟩ = _
  rw [readValue, skipSpaces_visible rfl]
  exact congrArg (Except.map fun after => (Json.bool false, after)) done

end Words

theorem bounded_items (inner outer : Nat) (items : List Json) (rest : List Char) :
    Bounded ((indentedItems inner items).toList ++ ((margin outer).toList ++ rest)) := by
  cases items with
  | nil =>
    rw [indentedItems]
    exact bounded_margin outer rest
  | cons item more =>
    rw [toList_indentedItems]
    rintro c first
    cases first
    exact .inl rfl

theorem bounded_members (inner outer : Nat) (members : List (String × Json)) (rest : List Char) :
    Bounded ((indentedMembers inner members).toList ++ ((margin outer).toList ++ rest)) := by
  cases members with
  | nil =>
    rw [indentedMembers]
    exact bounded_margin outer rest
  | cons member more =>
    rw [toList_indentedMembers]
    rintro c first
    cases first
    exact .inl rfl

mutual

/-- The text of a value is read back, with anything behind it that may end a number. -/
theorem readValue_indented {depth : Nat} (document : Json) (readable : Readable depth document)
    (level : Nat) (fuel : Nat) (enough : (indented level document).toList.length ≤ fuel + 1)
    {rest : List Char} (bounded : Bounded rest) (place : Place) :
    Yields (readValue (fuel + 1) depth ⟨(indented level document).toList ++ rest, place⟩)
      document rest := by
  cases document with
  | null =>
    rw [indented]
    exact readValue_null fuel depth rest place
  | bool value =>
    cases value with
    | true =>
      rw [indented]
      exact readValue_true fuel depth rest place
    | false =>
      rw [indented]
      exact readValue_false fuel depth rest place
  | int n =>
    rw [Readable] at readable
    rw [indented]
    exact readValue_int readable.1 readable.2 fuel depth bounded place
  | float x =>
    rw [Readable] at readable
    exact readable.elim
  | str text =>
    rw [indented]
    exact readValue_quoted text fuel depth rest place
  | arr items =>
    rw [Readable] at readable
    obtain ⟨room, readable⟩ := readable
    cases items with
    | nil =>
      rw [indented] at enough ⊢
      obtain ⟨fuel, rfl⟩ := Nat.exists_eq_add_one.mpr (Nat.le_of_succ_le_succ enough)
      change Yields (readValue _ depth ⟨'[' :: ']' :: rest, place⟩) _ rest
      rw [readValue_list _ _ _ _ room]
      exact readItems_close fuel _ rest _ true []
    | cons item items =>
      rw [ReadableItems] at readable
      rw [toList_indented_arr] at enough ⊢
      simp only [List.length_cons, List.length_append, List.length_nil] at enough
      have line := margin_length (level + 1)
      have last := margin_length level
      obtain ⟨fuel, rfl⟩ := Nat.exists_eq_add_of_le' (show 2 ≤ fuel by omega)
      obtain ⟨c, tail, shape, starts⟩ := indented_cons readable.1 (level + 1)
      have own := readValue_indented item readable.1 (level + 1) fuel (by omega)
        (bounded_items (level + 1) level items (']' :: rest))
      simp only [List.cons_append, List.append_assoc, List.nil_append]
      rw [shape, List.cons_append] at own ⊢
      obtain ⟨after, moved⟩ := readItems_first starts (level + 1) (place.after '[') own
      rw [readValue_list _ _ _ _ room, moved]
      exact readItems_indented items readable.2 (level + 1) level fuel (by omega) [item] rest after
  | obj members =>
    rw [Readable] at readable
    obtain ⟨room, readable⟩ := readable
    cases members with
    | nil =>
      rw [indented] at enough ⊢
      obtain ⟨fuel, rfl⟩ := Nat.exists_eq_add_one.mpr (Nat.le_of_succ_le_succ enough)
      change Yields (readValue _ depth ⟨'{' :: '}' :: rest, place⟩) _ rest
      rw [readValue_object _ _ _ _ room]
      exact readMembers_close fuel _ rest _ true []
    | cons member members =>
      obtain ⟨key, value⟩ := member
      rw [ReadableMembers] at readable
      rw [toList_indented_obj] at enough ⊢
      simp only [List.length_cons, List.length_append, List.length_nil] at enough
      have line := margin_length (level + 1)
      have last := margin_length level
      obtain ⟨fuel, rfl⟩ := Nat.exists_eq_add_of_le' (show 3 ≤ fuel by omega)
      have own := readValue_indented value readable.1 (level + 1) fuel (by omega)
        (bounded_members (level + 1) level members ('}' :: rest))
      simp only [List.cons_append, List.append_assoc, List.nil_append]
      obtain ⟨after, moved⟩ := readMembers_first key (level + 1) (place.after '{') own
      rw [readValue_object _ _ _ _ room, moved]
      exact readMembers_indented members readable.2 (level + 1) level fuel (by omega) [(key, value)] rest after

theorem readItems_indented {depth : Nat} (items : List Json) (readable : ReadableItems depth items)
    (inner outer : Nat) (fuel : Nat) (enough : (indentedItems inner items).toList.length ≤ fuel)
    (read : List Json) (rest : List Char) (place : Place) :
    Yields (readItems (fuel + 1) depth false read
        ⟨(indentedItems inner items).toList ++ ((margin outer).toList ++ ']' :: rest), place⟩)
      (.arr (read.reverse ++ items)) rest := by
  cases items with
  | nil =>
    rw [indentedItems, List.append_nil]
    exact readItems_end fuel depth rest place outer false read
  | cons item items =>
    rw [ReadableItems] at readable
    rw [toList_indentedItems] at enough ⊢
    simp only [List.length_cons, List.length_append] at enough
    have line := margin_length inner
    obtain ⟨fuel, rfl⟩ := Nat.exists_eq_add_of_le' (show 1 ≤ fuel by omega)
    obtain ⟨c, tail, shape, starts⟩ := indented_cons readable.1 inner
    have own := readValue_indented item readable.1 inner fuel (by omega)
      (bounded_items inner outer items (']' :: rest))
    simp only [List.cons_append, List.append_assoc]
    rw [shape, List.cons_append] at own ⊢
    obtain ⟨after, moved⟩ := readItems_next starts inner read place own
    rw [moved]
    have others := readItems_indented items readable.2 inner outer fuel (by omega)
      (item :: read) rest after
    rwa [List.reverse_cons, List.append_assoc] at others

theorem readMembers_indented {depth : Nat} (members : List (String × Json))
    (readable : ReadableMembers depth members) (inner outer : Nat) (fuel : Nat)
    (enough : (indentedMembers inner members).toList.length ≤ fuel)
    (read : List (String × Json)) (rest : List Char) (place : Place) :
    Yields (readMembers (fuel + 1) depth false read
        ⟨(indentedMembers inner members).toList ++ ((margin outer).toList ++ '}' :: rest), place⟩)
      (.obj (read.reverse ++ members)) rest := by
  cases members with
  | nil =>
    rw [indentedMembers, List.append_nil]
    exact readMembers_end fuel depth rest place outer false read
  | cons member members =>
    obtain ⟨key, value⟩ := member
    rw [ReadableMembers] at readable
    rw [toList_indentedMembers] at enough ⊢
    simp only [List.length_cons, List.length_append] at enough
    have line := margin_length inner
    obtain ⟨fuel, rfl⟩ := Nat.exists_eq_add_of_le' (show 2 ≤ fuel by omega)
    have own := readValue_indented value readable.1 inner fuel (by omega)
      (bounded_members inner outer members ('}' :: rest))
    simp only [List.cons_append, List.append_assoc]
    obtain ⟨after, moved⟩ := readMembers_next key inner read place own
    rw [moved]
    have others := readMembers_indented members readable.2 inner outer fuel (by omega)
      ((key, value) :: read) rest after
    rwa [List.reverse_cons, List.append_assoc] at others

end

/-- The indented text of a document is read as the document that was written, -/
theorem readWritten_pretty {document : Json} (readable : Readable maxDepth document) :
    readWritten document.pretty = .ok document := by
  have enough : document.pretty.toList.length ≤ 3 * document.pretty.toList.length + 2 + 1 := by
    omega
  have whole : Yields (readValue (stepBound (Cursor.start document.pretty).rest) maxDepth
      (Cursor.start document.pretty)) document [] := by
    have done := readValue_indented document readable 0 _ enough bounded_nil ⟨1, 0⟩
    rwa [List.append_nil] at done
  obtain ⟨after, done⟩ := whole
  simp only [readWritten, done, bind, Except.bind]
  rfl

/-- or as that with its members in key order. -/
theorem read_pretty {document : Json} (readable : Readable maxDepth document) :
    Json.read document.pretty = .ok document.sorted := by
  rw [Json.read, readWritten_pretty readable]
  rfl

mutual

/-- Documents that can be read back have no floating-point numbers, so two that are the same are
equal. -/
theorem eq_of_same {depth : Nat} {document other : Json} (readable : Readable depth document)
    (alike : document.same other = true) : document = other := by
  cases document with
  | float x =>
    rw [Readable] at readable
    exact readable.elim
  | arr items =>
    cases other with
    | arr others =>
      rw [Readable] at readable
      rw [same] at alike
      rw [items_eq_of_same readable.2 alike]
    | _ => simp [same] at alike
  | obj members =>
    cases other with
    | obj others =>
      rw [Readable] at readable
      rw [same] at alike
      rw [members_eq_of_same readable.2 alike]
    | _ => simp [same] at alike
  | _ => cases other <;> simp_all [same]

theorem items_eq_of_same {depth : Nat} {items others : List Json}
    (readable : ReadableItems depth items) (alike : sameItems items others = true) :
    items = others := by
  match items, others with
  | [], [] => rfl
  | [], _ :: _ | _ :: _, [] => simp [sameItems] at alike
  | item :: items, other :: others =>
    rw [ReadableItems] at readable
    rw [sameItems, Bool.and_eq_true] at alike
    rw [eq_of_same readable.1 alike.1, items_eq_of_same readable.2 alike.2]

theorem members_eq_of_same {depth : Nat} {members others : List (String × Json)}
    (readable : ReadableMembers depth members) (alike : sameMembers members others = true) :
    members = others := by
  match members, others with
  | [], [] => rfl
  | [], _ :: _ | _ :: _, [] => simp [sameMembers] at alike
  | (key, value) :: members, (other, content) :: others =>
    rw [ReadableMembers] at readable
    rw [sameMembers, Bool.and_eq_true, Bool.and_eq_true, beq_iff_eq] at alike
    obtain ⟨⟨rfl, first⟩, rest⟩ := alike
    rw [eq_of_same readable.1 first, members_eq_of_same readable.2 rest]

end

/-- What a text is read as can be tested, since documents can be compared. -/
theorem read_eq_ok {document : Json} (readable : Readable maxDepth document)
    {text : String} (found : (Json.read text).toOption.any document.same = true) :
    Json.read text = .ok document := by
  cases result : Json.read text with
  | error error =>
    rw [result] at found
    cases found
  | ok other =>
    rw [result] at found
    rw [eq_of_same readable found]

end ApiProbe.Json
