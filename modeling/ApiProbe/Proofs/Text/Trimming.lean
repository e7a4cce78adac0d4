import ApiProbe.Text.Blank
import Mathlib.Data.List.TakeWhile

/-!
Trimming of texts that are put together. Blanks at the far side of a visible character stay where
they are, so a text of two parts is trimmed at the start of the first and at the end of the second.
-/
namespace ApiProbe.Text
variable {chars front rest blanks suffix : List Char} {c : Char}

/-- The signs of ASCII can be seen. -/
theorem visible_of_range (low : 33 ≤ c.toNat) (high : c.toNat ≤ 126) : isBlank c = false := by
  have space : c ≠ ' ' := by
    rintro rfl
    exact absurd low (by decide)
  simp only [isBlank, beq_eq_false_iff_ne.mpr space, Bool.or_eq_false_iff, Bool.and_eq_false_iff,
    beq_eq_false_iff_ne, decide_eq_false_iff_not, true_and]
  omega

/-- The digits have the codes from 48 on. -/
theorem isDigit_iff : c.isDigit = true ↔ 48 ≤ c.toNat ∧ c.toNat ≤ 57 := by
  have digit : c.isDigit = (decide (48 ≤ c.val) && decide (c.val ≤ 57)) := rfl
  rw [digit, Bool.and_eq_true, decide_eq_true_eq, decide_eq_true_eq, UInt32.le_iff_toNat_le,
    UInt32.le_iff_toNat_le]
  rfl

/-- The letters have the codes from 65 on if they are capital, and else those from 97 on. -/
theorem isAlpha_iff :
    c.isAlpha = true ↔ 65 ≤ c.toNat ∧ c.toNat ≤ 90 ∨ 97 ≤ c.toNat ∧ c.toNat ≤ 122 := by
  have letter : c.isAlpha = (decide (65 ≤ c.val ∧ c.val ≤ 90)
      || decide (97 ≤ c.val) && decide (c.val ≤ 122)) := rfl
  simp only [letter, Bool.or_eq_true, Bool.and_eq_true, decide_eq_true_eq, UInt32.le_iff_toNat_le]
  rfl

/-- Beyond ASCII no character has another lower case. -/
theorem toLower_large (large : 128 ≤ c.toNat) : c.toLower = c := by
  refine dif_neg fun range => ?_
  have below : c.toNat ≤ 90 := UInt32.le_iff_toNat_le.mp range.2
  omega

/-- Letters and digits can be seen. -/
theorem visible_of_isAlphanum (part : c.isAlphanum = true) : isBlank c = false := by
  rw [Char.isAlphanum, Bool.or_eq_true, isAlpha_iff, isDigit_iff] at part
  exact visible_of_range (by omega) (by omega)

theorem trimLeft_eq_nil : trimLeft chars = [] ↔ ∀ c ∈ chars, isBlank c = true :=
  List.dropWhile_eq_nil_iff

theorem trimLeft_cons_visible (visible : isBlank c = false) : trimLeft (c :: rest) = c :: rest :=
  List.dropWhile_cons_of_neg (by simp [visible])

/-- What trimming leaves at the start can be seen. -/
theorem visible_of_trimLeft (found : trimLeft chars = c :: rest) : isBlank c = false := by
  have first := List.head?_dropWhile_not isBlank chars
  rw [← trimLeft, found] at first
  simpa using first

/-- What trimming leaves at the end can be seen. -/
theorem visible_of_trimRight (last : (trimRight chars).getLast? = some c) : isBlank c = false := by
  have first := List.head?_dropWhile_not isBlank chars.reverse
  rw [trimRight, List.getLast?_reverse] at last
  rw [last] at first
  simpa using first

theorem trimLeft_trimLeft (chars : List Char) : trimLeft (trimLeft chars) = trimLeft chars := by
  cases found : trimLeft chars with
  | nil => rfl
  | cons c rest => exact trimLeft_cons_visible (visible_of_trimLeft found)

/-- The blanks that trimming takes from the start. -/
theorem exists_blanks_trimLeft (chars : List Char) :
    ∃ blanks, chars = blanks ++ trimLeft chars ∧ ∀ c ∈ blanks, isBlank c = true :=
  ⟨chars.takeWhile isBlank, List.takeWhile_append_dropWhile.symm,
    fun _ member => List.mem_takeWhile_imp member⟩

theorem trimLeft_append_of_ne_nil (visible : trimLeft chars ≠ []) (suffix : List Char) :
    trimLeft (chars ++ suffix) = trimLeft chars ++ suffix := by
  rw [trimLeft, List.dropWhile_append, if_neg]
  · rfl
  · simpa [trimLeft] using visible

theorem trimLeft_append_of_nil (blank : trimLeft chars = []) (suffix : List Char) :
    trimLeft (chars ++ suffix) = trimLeft suffix :=
  List.dropWhile_append_of_pos (trimLeft_eq_nil.mp blank)

/-- Blanks in front of a visible character are dropped. -/
theorem trimLeft_blanks (blank : ∀ c ∈ blanks, isBlank c = true) (visible : isBlank c = false)
    (rest : List Char) : trimLeft (blanks ++ c :: rest) = c :: rest := by
  rw [trimLeft_append_of_nil (trimLeft_eq_nil.mpr blank), trimLeft_cons_visible visible]

theorem trimRight_append_visible (visible : isBlank c = false) (front rest : List Char) :
    trimRight (front ++ c :: rest) = front ++ c :: trimRight rest := by
  have kept : (c :: front.reverse).dropWhile isBlank = c :: front.reverse :=
    trimLeft_cons_visible visible
  simp only [trimRight, List.reverse_append, List.reverse_cons, List.append_assoc,
    List.dropWhile_append, List.singleton_append, kept]
  split
  · rename_i blank
    simp [List.isEmpty_iff.mp blank]
  · simp

theorem trimRight_append_blanks (blank : ∀ c ∈ blanks, isBlank c = true) (chars : List Char) :
    trimRight (chars ++ blanks) = trimRight chars := by
  have skipped : ∀ c ∈ blanks.reverse, isBlank c = true := by simpa using blank
  rw [trimRight, List.reverse_append, List.dropWhile_append_of_pos skipped, trimRight]

/-- The blanks that trimming takes from the end. -/
theorem exists_blanks_trimRight (chars : List Char) :
    ∃ blanks, chars = trimRight chars ++ blanks ∧ ∀ c ∈ blanks, isBlank c = true := by
  obtain ⟨blanks, split, blank⟩ := exists_blanks_trimLeft chars.reverse
  refine ⟨blanks.reverse, ?_, by simpa using blank⟩
  have turned := congrArg List.reverse split
  rwa [List.reverse_reverse, List.reverse_append] at turned

theorem trimChars_append_blanks (blank : ∀ c ∈ blanks, isBlank c = true) (chars : List Char) :
    trimChars (chars ++ blanks) = trimChars chars := by
  by_cases visible : trimLeft chars = []
  · have nothing : trimLeft blanks = [] := trimLeft_eq_nil.mpr blank
    rw [trimChars, trimLeft_append_of_nil visible, nothing, trimChars, visible]
  · rw [trimChars, trimLeft_append_of_ne_nil visible, trimRight_append_blanks blank, trimChars]

/-- Between two parts that can be seen, only the blanks of the first part's end stay. -/
theorem trimChars_append_visible (start : trimLeft front ≠ []) (visible : isBlank c = false)
    (rest : List Char) :
    ∃ blanks, (∀ c ∈ blanks, isBlank c = true) ∧
      trimChars (front ++ c :: rest) = trimChars front ++ (blanks ++ c :: trimRight rest) := by
  obtain ⟨blanks, split, blank⟩ := exists_blanks_trimRight (trimLeft front)
  refine ⟨blanks, blank, ?_⟩
  calc trimChars (front ++ c :: rest)
    _ = trimLeft front ++ c :: trimRight rest := by
      rw [trimChars, trimLeft_append_of_ne_nil start, trimRight_append_visible visible]
    _ = trimChars front ++ (blanks ++ c :: trimRight rest) := by
      rw [← List.append_assoc, trimChars, ← split]

theorem trimLeft_eq_self (first : ∀ c, chars.head? = some c → isBlank c = false) :
    trimLeft chars = chars := by
  cases chars with
  | nil => rfl
  | cons c rest => exact trimLeft_cons_visible (first c rfl)

theorem trimRight_eq_self (last : ∀ c, chars.getLast? = some c → isBlank c = false) :
    trimRight chars = chars := by
  have turned : trimLeft chars.reverse = chars.reverse :=
    trimLeft_eq_self (by simpa using last)
  rw [trimLeft] at turned
  rw [trimRight, turned, List.reverse_reverse]

/-- A text without outer blanks is left as it is. -/
theorem trimChars_eq_self (first : ∀ c, chars.head? = some c → isBlank c = false)
    (last : ∀ c, chars.getLast? = some c → isBlank c = false) : trimChars chars = chars := by
  rw [trimChars, trimLeft_eq_self first, trimRight_eq_self last]

/-- Text between two characters that can be seen is not trimmed. -/
theorem trimChars_framed {last : Char} (first : isBlank c = false) (visible : isBlank last = false)
    (inner : List Char) : trimChars (c :: (inner ++ [last])) = c :: (inner ++ [last]) := by
  apply trimChars_eq_self
  · simp [first]
  · rw [← List.cons_append, List.getLast?_concat]
    simp [visible]

theorem trimChars_of_visible {chars : List Char} (visible : ∀ c ∈ chars, isBlank c = false) :
    trimChars chars = chars :=
  trimChars_eq_self (fun c first => visible c (List.mem_of_head? first))
    fun c last => visible c (List.mem_of_getLast? last)

theorem trimRight_begins (chars : List Char) : trimRight chars <+: chars := by
  obtain ⟨blanks, split, -⟩ := exists_blanks_trimRight chars
  exact ⟨blanks, split.symm⟩

theorem mem_of_mem_trimChars (member : c ∈ trimChars chars) : c ∈ chars :=
  List.dropWhile_sublist isBlank |>.subset ((trimRight_begins _).subset member)

/-- What has been trimmed is not trimmed further. -/
theorem trimChars_trimChars (chars : List Char) : trimChars (trimChars chars) = trimChars chars := by
  refine trimChars_eq_self (fun c first => ?_) fun c last => visible_of_trimRight last
  obtain ⟨rest, start⟩ := List.head?_eq_some_iff.mp first
  obtain ⟨blanks, split⟩ := trimRight_begins (trimLeft chars)
  rw [trimChars] at start
  rw [start, List.cons_append] at split
  exact visible_of_trimLeft split.symm

/-- A run of characters of a kind stops in front of the first character that is not of it. -/
theorem span_of_boundary (kind : Char → Bool) {chars rest : List Char}
    (inside : ∀ c ∈ chars, kind c = true)
    (boundary : ∀ c, rest.head? = some c → kind c = false) :
    (chars ++ rest).takeWhile kind = chars ∧ (chars ++ rest).dropWhile kind = rest := by
  rw [List.takeWhile_append_of_pos inside, List.dropWhile_append_of_pos inside]
  cases rest with
  | nil => simp
  | cons c tail => simp [boundary c rfl]

/-- Behind a run of characters of a kind stands what is left when the run is dropped. -/
theorem drop_length_takeWhile (kind : Char → Bool) (chars : List Char) :
    chars.drop (chars.takeWhile kind).length = chars.dropWhile kind := by
  calc chars.drop (chars.takeWhile kind).length
    _ = (chars.takeWhile kind ++ chars.dropWhile kind).drop (chars.takeWhile kind).length := by
      rw [List.takeWhile_append_dropWhile]
    _ = chars.dropWhile kind := List.drop_left

theorem toList_trim (text : String) : (trim text).toList = trimChars text.toList :=
  String.toList_ofList

theorem trimChars_of_trim {text : String} (trimmed : trim text = text) :
    trimChars text.toList = text.toList := by
  rw [← toList_trim, trimmed]

end ApiProbe.Text
