import ApiProbe.Proofs.Text.Cutting
import ApiProbe.Xml.Entity

/-!
Text as it is written in a document: the five signs that mean something there are written as
references. Reading the references gives the text back. No reference reaches over a closing angle
bracket, so the references on both sides of one are read apart.
-/
namespace ApiProbe.Xml

/-- The reference to a sign, or the sign itself. -/
def escape : Char → List Char
  | '&' => "&amp;".toList
  | '<' => "&lt;".toList
  | '>' => "&gt;".toList
  | '"' => "&quot;".toList
  | '\'' => "&apos;".toList
  | c => [c]

def escaped (text : List Char) : List Char := text.flatMap escape

/-- The signs that are written as references. -/
def isMarkup (c : Char) : Bool := c == '&' || c == '<' || c == '>' || c == '"' || c == '\''

theorem escape_of_plain {c : Char} (plain : isMarkup c = false) : escape c = [c] := by
  unfold escape
  split <;> first | rfl | cases plain

/-- A written text has no angle brackets and no quotes. -/
theorem not_mem_escaped {c : Char} (markup : isMarkup c = true) (other : c ≠ '&') (text : List Char) :
    c ∉ escaped text := by
  intro member
  obtain ⟨d, -, inside⟩ := List.mem_flatMap.mp member
  cases marked : isMarkup d with
  | false =>
    rw [escape_of_plain marked, List.mem_singleton] at inside
    rw [inside, marked] at markup
    cases markup
  | true =>
    simp only [isMarkup, Bool.or_eq_true, beq_iff_eq] at markup marked
    revert inside
    rcases marked with (((rfl | rfl) | rfl) | rfl) | rfl <;>
      rcases markup with (((rfl | rfl) | rfl) | rfl) | rfl <;>
      first | exact absurd rfl other | decide

theorem escaped_ne_nil {text : List Char} (some_ : text ≠ []) : escaped text ≠ [] := by
  cases text with
  | nil => exact absurd rfl some_
  | cons c rest =>
    rw [escaped, List.flatMap_cons]
    unfold escape
    split <;> simp

theorem decodeReferences_plain {c : Char} (plain : c ≠ '&') (rest : List Char) :
    decodeReferences (c :: rest) = c :: decodeReferences rest := by
  rw [decodeReferences, if_neg (by simpa using plain)]

theorem decodeReferences_reference {image : Char} {chars rest : List Char}
    (found : reference? chars = some (image, rest)) :
    decodeReferences ('&' :: chars) = image :: decodeReferences rest := by
  rw [decodeReferences, if_pos (by rfl)]
  split
  · rename_i same
    rw [found] at same
    cases same
    rfl
  · rename_i none
    rw [found] at none
    cases none

theorem decodeReferences_no_reference {chars : List Char} (none : reference? chars = none) :
    decodeReferences ('&' :: chars) = '&' :: decodeReferences chars := by
  rw [decodeReferences, if_pos (by rfl)]
  split
  · rename_i found
    rw [none] at found
    cases found
  · rfl

theorem decodeReferences_escape (c : Char) (rest : List Char) :
    decodeReferences (escape c ++ rest) = c :: decodeReferences rest := by
  unfold escape
  split
  · exact decodeReferences_reference (by rfl)
  · exact decodeReferences_reference (by rfl)
  · exact decodeReferences_reference (by rfl)
  · exact decodeReferences_reference (by rfl)
  · exact decodeReferences_reference (by rfl)
  · rename_i noAmpersand _ _ _ _
    exact decodeReferences_plain noAmpersand rest

theorem decodeReferences_escaped (text : List Char) : decodeReferences (escaped text) = text := by
  induction text with
  | nil => rw [escaped, List.flatMap_nil, decodeReferences]
  | cons c rest ih => rw [escaped, List.flatMap_cons, decodeReferences_escape, ← escaped, ih]

section
variable {inner : List Char}

theorem mem_unsigned (member : '>' ∈ inner) :
    '>' ∈ if inner.head? == some '+' then inner.drop 1 else inner := by
  split
  · rename_i signed
    obtain ⟨rest, rfl⟩ := List.head?_eq_some_iff.mp (eq_of_beq signed)
    simpa using member
  · exact member

theorem hexNumber?_eq_none (member : '>' ∈ inner) : hexNumber? inner = none := by
  have inside := mem_unsigned member
  unfold hexNumber?
  dsimp only
  generalize (if inner.head? == some '+' then inner.drop 1 else inner) = body at inside ⊢
  have lost (chars : List Char) : chars.foldl (fun total c => do
      some ((← total) * 16 + (← hexDigit? c))) (none : Option Nat) = none := by
    induction chars with
    | nil => rfl
    | cons c rest ih => exact ih
  have digits (start : Option Nat) :
      body.foldl (fun total c => do some ((← total) * 16 + (← hexDigit? c))) start = none := by
    induction body generalizing start with
    | nil => cases inside
    | cons c rest ih =>
      rw [List.foldl_cons]
      rcases List.mem_cons.mp inside with rfl | later
      · cases start <;> exact lost rest
      · exact ih later _
  split
  · rfl
  · exact digits _

theorem readNat?_eq_none (limit : Nat) (member : '>' ∈ inner) :
    Decimal.readNat? limit inner = none := by
  have inside := mem_unsigned member
  unfold Decimal.readNat?
  dsimp only
  generalize (if inner.head? == some '+' then inner.drop 1 else inner) = body at inside ⊢
  have wrong : body.all Char.isDigit = false := List.all_eq_false.mpr ⟨'>', inside, by decide⟩
  simp [wrong]

/-- What holds a closing angle bracket is no reference. -/
theorem referent?_eq_none (member : '>' ∈ inner) : referent? inner = none := by
  unfold referent?
  split
  iterate 5 exact absurd member (by decide)
  · rw [hexNumber?_eq_none (by simpa using member)]
    rfl
  · rw [hexNumber?_eq_none (by simpa using member)]
    rfl
  · rw [readNat?_eq_none _ (by simpa using member)]
    rfl
  · rfl

theorem reference?_semicolon (free : ';' ∉ inner) (rest : List Char) :
    reference? (inner ++ ';' :: rest) = (referent? inner).map fun image => (image, rest) := by
  rw [reference?, Text.cutAt?_of_not_mem free]

theorem reference?_eq_none {chars : List Char} (free : ';' ∉ chars) : reference? chars = none := by
  rw [reference?, Text.cutAt?_eq_none free]

/-- A reference in front of a closing angle bracket ends in front of it. -/
theorem reference?_append (chars rest : List Char) :
    reference? (chars ++ '>' :: rest) =
      (reference? chars).map fun (image, after) => (image, after ++ '>' :: rest) := by
  by_cases inside : ';' ∈ chars
  · obtain ⟨front, back, rfl, free⟩ := List.eq_append_cons_of_mem inside
    have whole : front ++ ';' :: back ++ '>' :: rest = front ++ ';' :: (back ++ '>' :: rest) := by simp
    rw [whole, reference?_semicolon free, reference?_semicolon free, Option.map_map]
    rfl
  · rw [reference?_eq_none inside, Option.map_none]
    by_cases later : ';' ∈ rest
    · obtain ⟨front, back, rfl, free⟩ := List.eq_append_cons_of_mem later
      have whole : chars ++ '>' :: (front ++ ';' :: back) =
          (chars ++ '>' :: front) ++ ';' :: back := by simp
      have free : ';' ∉ chars ++ '>' :: front := by simp [inside, free]
      rw [whole, reference?_semicolon free, referent?_eq_none (by simp), Option.map_none]
    · exact reference?_eq_none (by simp [inside, later])

end

/-- The references on both sides of a closing angle bracket are read apart. -/
theorem decodeReferences_append (chars rest : List Char) :
    decodeReferences (chars ++ '>' :: rest) =
      decodeReferences chars ++ '>' :: decodeReferences rest := by
  induction chars using decodeReferences.induct with
  | case1 => rw [List.nil_append, decodeReferences_plain (by decide), decodeReferences, List.nil_append]
  | case2 c chars sign image after found ih =>
    rw [eq_of_beq sign, List.cons_append, decodeReferences_reference found,
      decodeReferences_reference (by rw [reference?_append, found]; rfl), ih, List.cons_append]
  | case3 c chars sign none ih =>
    rw [eq_of_beq sign, List.cons_append, decodeReferences_no_reference none,
      decodeReferences_no_reference (by rw [reference?_append, none]; rfl), ih, List.cons_append]
  | case4 c chars plain ih =>
    have plain : c ≠ '&' := by simpa using plain
    rw [List.cons_append, decodeReferences_plain plain, decodeReferences_plain plain, ih,
      List.cons_append]

end ApiProbe.Xml
