import ApiProbe.Json.Reader
import ApiProbe.Json.Printer

/-!
Strings as they are written in documents. Quotes, backslashes and controls are escaped, in the short
form if they have one and by code otherwise; reading the escapes gives the string back, whatever
stands behind its closing quote.
-/
namespace ApiProbe.Json

/-- The reader gives a value and stands where the rest begins. -/
def Yields {α : Type} (result : Except ReadError (α × Cursor)) (value : α) (rest : List Char) : Prop :=
  ∃ place, result = .ok (value, ⟨rest, place⟩)

namespace Str

/-- How a character stands in a string: by itself, behind a backslash, or by its code. -/
inductive Image (c : Char) : List Char → Prop
  | self (quote : c ≠ '"') (backslash : c ≠ '\\') (visible : 32 ≤ c.toNat) : Image c [c]
  | short {letter : Char} (code : letter ≠ 'u') (means : shortEscape? letter = some c) :
    Image c ['\\', letter]
  | code (control : c.toNat < 32) :
    Image c ['\\', 'u', '0', '0', Nat.digitChar (c.toNat / 16), Nat.digitChar (c.toNat % 16)]

theorem image_escapeChar (c : Char) : Image c (escapeChar c) := by
  have same {n : Nat} (code : (c.toNat == n) = true) : c = Char.ofNat n := by
    rw [← beq_iff_eq.mp code, Char.ofNat_toNat]
  unfold escapeChar
  split
  case h_6 quote backslash _ _ _ =>
    split
    · rename_i code
      rw [same code]
      exact .short (by decide) rfl
    split
    · rename_i code
      rw [same code]
      exact .short (by decide) rfl
    split
    · rename_i control
      exact .code control
    · rename_i visible
      exact .self quote backslash (Nat.not_lt.mp visible)
  all_goals exact .short (by decide) rfl

theorem hexValue?_digitChar : ∀ n < 16, hexValue? (Nat.digitChar n) = some n := by decide

theorem readHex_digits (rest : List Char) (place : Place) {a b c d : Char} {w x y z : Nat} (first : hexValue? a = some w)
    (second : hexValue? b = some x) (third : hexValue? c = some y) (fourth : hexValue? d = some z) :
    Yields (readHex ⟨a :: b :: c :: d :: rest, place⟩) (((w * 16 + x) * 16 + y) * 16 + z) rest := by
  refine ⟨(((place.after a).after b).after c).after d, ?_⟩
  simp only [readHex, List.take_succ_cons, List.take_zero, first, second, third, fourth]
  rfl

/-- A control is read from its code. -/
theorem readCode_control {c : Char} (control : c.toNat < 32) (rest : List Char) (place : Place) :
    Yields (readCode ⟨'0' :: '0' :: Nat.digitChar (c.toNat / 16) :: Nat.digitChar (c.toNat % 16) ::
      rest, place⟩) c rest := by
  obtain ⟨after, digits⟩ := readHex_digits rest place (hexValue?_digitChar 0 (by decide))
    (hexValue?_digitChar 0 (by decide)) (hexValue?_digitChar (c.toNat / 16) (by omega))
    (hexValue?_digitChar (c.toNat % 16) (by omega))
  have value : ((0 * 16 + 0) * 16 + c.toNat / 16) * 16 + c.toNat % 16 = c.toNat := by omega
  rw [value] at digits
  have low : ¬(0xDC00 ≤ c.toNat ∧ c.toNat ≤ 0xDFFF) := by omega
  have single : c.toNat < 0xD800 ∨ c.toNat > 0xDBFF := by omega
  refine ⟨after, ?_⟩
  have zero : Nat.digitChar 0 = '0' := rfl
  rw [zero] at digits
  simp [readCode, digits, bind, Except.bind, low, single, pure, Except.pure]

/-- One character of a string is read, however it is written. -/
theorem readChars_image {c : Char} {image : List Char} (is : Image c image) (fuel : Nat)
    (read rest : List Char) (place : Place) :
    ∃ after, readChars (fuel + 1) read ⟨image ++ rest, place⟩ =
      readChars fuel (c :: read) ⟨rest, after⟩ := by
  cases is with
  | self quote backslash visible =>
    refine ⟨place.after c, ?_⟩
    rw [List.singleton_append, readChars]
    split
    · rename_i none
      cases none
    · rename_i same
      cases same
      exact absurd rfl quote
    · rename_i same
      cases same
      exact absurd rfl backslash
    · rename_i same
      cases same
      exact if_neg (Nat.not_lt.mpr visible)
  | @short letter code means =>
    refine ⟨(place.after '\\').after letter, ?_⟩
    change readChars (fuel + 1) read ⟨'\\' :: letter :: rest, place⟩ = _
    rw [readChars]
    simp only [means]
    rfl
  | code control =>
    obtain ⟨after, coded⟩ := readCode_control control rest ((place.after '\\').after 'u')
    refine ⟨after, ?_⟩
    rw [List.cons_append, List.cons_append, readChars]
    simp only [Cursor.skipMany, Cursor.skip, List.cons_append, List.nil_append, coded]

/-- The characters of a string are read up to its closing quote. -/
theorem readChars_escaped (chars rest : List Char) {fuel : Nat} (read : List Char) (place : Place)
    (enough : chars.length < fuel) :
    Yields (readChars fuel read ⟨chars.flatMap escapeChar ++ '"' :: rest, place⟩)
      (String.ofList (read.reverse ++ chars)) rest := by
  induction chars generalizing fuel read place with
  | nil =>
    obtain ⟨fuel, rfl⟩ := Nat.exists_eq_add_one.mpr (Nat.zero_lt_of_lt enough)
    refine ⟨place.after '"', ?_⟩
    rw [List.append_nil]
    rfl
  | cons c more ih =>
    obtain ⟨fuel, rfl⟩ := Nat.exists_eq_add_one.mpr (Nat.zero_lt_of_lt enough)
    rw [List.flatMap_cons, List.append_assoc]
    obtain ⟨after, moved⟩ := readChars_image (image_escapeChar c) fuel read
      (more.flatMap escapeChar ++ '"' :: rest) place
    rw [moved]
    simpa using ih (c :: read) after (show more.length < fuel by simpa using enough)

theorem Image.length_pos {c : Char} {image : List Char} (is : Image c image) : 1 ≤ image.length := by
  cases is <;> simp

theorem length_le_escaped (chars : List Char) :
    chars.length ≤ (chars.flatMap escapeChar).length := by
  induction chars with
  | nil => exact Nat.le_refl 0
  | cons c rest ih =>
    have own := (image_escapeChar c).length_pos
    simp only [List.flatMap_cons, List.length_append, List.length_cons]
    omega

/-- A quoted string is read behind its opening quote. -/
theorem read_quoted (text : String) (rest : List Char) (place : Place) :
    Yields (Str.read ⟨text.toList.flatMap escapeChar ++ '"' :: rest, place⟩) text rest := by
  have shorter := length_le_escaped text.toList
  have enough : text.toList.length < (text.toList.flatMap escapeChar ++ '"' :: rest).length + 1 := by
    rw [List.length_append]
    omega
  have done := readChars_escaped text.toList rest [] place enough
  rw [List.reverse_nil, List.nil_append, String.ofList_toList] at done
  exact done

end Str
end ApiProbe.Json
