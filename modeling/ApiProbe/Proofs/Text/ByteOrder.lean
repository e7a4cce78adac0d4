import ApiProbe.Text.Utf8
import Mathlib.Data.String.Basic

/-!
The order of texts and of their bytes. In UTF-8 the bytes of a character come before those of every
character with a larger code, whatever follows them. So texts compare by their bytes as they do by
their characters.
-/
namespace ApiProbe.Text

theorem bytesOf_eq_flatMap (text : String) :
    bytesOf text = text.toList.flatMap String.utf8EncodeChar := by
  have loop (bytes : ByteArray) (i : Nat) (read : List UInt8) :
      ByteArray.toList.loop bytes i read = read.reverse ++ bytes.data.toList.drop i := by
    fun_induction ByteArray.toList.loop bytes i read with
    | case1 i read inside ih =>
      have inside : i < bytes.data.toList.length := by simpa using inside
      have here : bytes.get! i = bytes.data.toList[i] := getElem!_pos bytes.data i (by simpa using inside)
      rw [ih, List.drop_eq_getElem_cons inside, here, List.reverse_cons, List.append_assoc]
      rfl
    | case2 i read outside =>
      rw [List.drop_eq_nil_of_le (by simpa using Nat.le_of_not_lt outside), List.append_nil]
  have encoded : text.toUTF8 = (text.toList.flatMap String.utf8EncodeChar).toByteArray := by
    conv => lhs; rw [← String.ofList_toList (s := text)]
    rfl
  rw [bytesOf, encoded, ByteArray.toList, loop, List.toList_data_toByteArray]
  rfl

/-- Bytes are told apart by the first pair that differs. -/
theorem lex_ofNat {a b : Nat} {rest others : List UInt8} (small : b < 256)
    (earlier : a < b ∨ a = b ∧ List.Lex (· < ·) rest others) :
    List.Lex (· < ·) (UInt8.ofNat a :: rest) (UInt8.ofNat b :: others) := by
  rcases earlier with less | ⟨rfl, later⟩
  · exact .rel ((UInt8.ofNat_lt_iff_lt (less.trans small) small).mpr less)
  · exact .cons later

/-- Of two codes the leading digits are compared first, and then what the other bytes hold. -/
theorem lex_leading {m n a b : Nat} {rest others : List UInt8} (unit : Nat) (less : m < n)
    (small : b < 256) (leads : m / unit < n / unit → a < b)
    (same : m / unit = n / unit → a = b ∧ List.Lex (· < ·) rest others) :
    List.Lex (· < ·) (UInt8.ofNat a :: rest) (UInt8.ofNat b :: others) := by
  rcases Nat.lt_or_eq_of_le (Nat.div_le_div_right less.le) with leading | leading
  · exact lex_ofNat small (.inl (leads leading))
  · exact lex_ofNat small (.inr (same leading))

/-- The bytes of a character come before those of a character with a larger code. -/
theorem lex_utf8EncodeChar {c d : Char} (less : c < d) (rest others : List UInt8) :
    List.Lex (· < ·) (String.utf8EncodeChar c ++ rest) (String.utf8EncodeChar d ++ others) := by
  have codes : c.val.toNat < d.val.toNat := less
  have bound : d.val.toNat < 1114112 := by
    rcases d.valid with low | ⟨-, high⟩
    · exact low.trans (by decide)
    · exact high
  simp only [String.utf8EncodeChar]
  generalize c.val.toNat = m at codes
  generalize d.val.toNat = n at codes bound
  -- The number of bytes grows with the code, and so does the first byte with their number. Bytes of
  -- the same number are compared from the leading digits of the code on.
  split
  · split
    · exact lex_ofNat (by omega) (.inl codes)
    split
    · exact lex_ofNat (by omega) (.inl (by omega))
    split
    · exact lex_ofNat (by omega) (.inl (by omega))
    · exact lex_ofNat (by omega) (.inl (by omega))
  rw [if_neg (show ¬n ≤ 127 by omega)]
  split
  · split
    · exact lex_leading 64 codes (by omega) (by omega) fun _ =>
        ⟨by omega, lex_ofNat (by omega) (.inl (by omega))⟩
    split
    · exact lex_ofNat (by omega) (.inl (by omega))
    · exact lex_ofNat (by omega) (.inl (by omega))
  rw [if_neg (show ¬n ≤ 2047 by omega)]
  split
  · split
    · exact lex_leading 4096 codes (by omega) (by omega) fun _ =>
        ⟨by omega, lex_leading 64 codes (by omega) (by omega) fun _ =>
          ⟨by omega, lex_ofNat (by omega) (.inl (by omega))⟩⟩
    · exact lex_ofNat (by omega) (.inl (by omega))
  rw [if_neg (show ¬n ≤ 65535 by omega)]
  exact lex_leading 262144 codes (by omega) (by omega) fun _ =>
    ⟨by omega, lex_leading 4096 codes (by omega) (by omega) fun _ =>
      ⟨by omega, lex_leading 64 codes (by omega) (by omega) fun _ =>
        ⟨by omega, lex_ofNat (by omega) (.inl (by omega))⟩⟩⟩

/-- Texts are ordered by their characters as they are by their bytes. -/
theorem bytesOf_lt_iff {a b : String} : bytesOf a < bytesOf b ↔ a < b := by
  have forward {a b : List Char} (less : List.Lex (· < ·) a b) :
      List.Lex (· < ·) (a.flatMap String.utf8EncodeChar) (b.flatMap String.utf8EncodeChar) := by
    induction less with
    | @nil c rest =>
      obtain ⟨byte, bytes, shape⟩ := List.exists_cons_of_ne_nil (String.utf8EncodeChar_ne_nil (c := c))
      rw [List.flatMap_cons, shape]
      exact .nil
    | @rel c rest d others less => exact lex_utf8EncodeChar less _ _
    | @cons c rest others later ih => exact List.Lex.append_left _ ih _
  have mono {a b : String} (less : a < b) : bytesOf a < bytesOf b := by
    rw [bytesOf_eq_flatMap, bytesOf_eq_flatMap]
    exact forward (String.lt_iff_toList_lt.mp less)
  refine ⟨fun bytes => ?_, mono⟩
  rcases lt_trichotomy a b with less | rfl | greater
  · exact less
  · exact absurd bytes (List.lt_irrefl _)
  · exact absurd bytes (List.lt_asymm (mono greater))

end ApiProbe.Text
