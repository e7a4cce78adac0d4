import ApiProbe.Proofs.Text.Cutting
import ApiProbe.Proofs.Text.Trimming
import ApiProbe.Xml.Reader

/-!
Single steps of reading a document. What stands in front decides which step is taken: a name ends at the
next sign of a tag, a tag goes on up to its end, and what an element holds is markup or text.
-/
namespace ApiProbe.Xml
open Text

/-! ### Marks and names -/

section
variable {mark : String} {chars rest : List Char}

theorem startsWith_iff : startsWith mark chars = true ↔ mark.toList <+: chars :=
  List.isPrefixOf_iff_prefix

theorem startsWith_of_ne {c d : Char} (shape : mark.toList = c :: rest) (different : c ≠ d) :
    startsWith mark (d :: chars) = false := by
  simp [startsWith, shape, List.isPrefixOf, beq_eq_false_iff_ne.mpr different]

theorem skipPast_endsAt (mark : String) {front : List Char} (construct : Construct) (some_ : mark.toList ≠ [])
    (ends : EndsAt mark.toList front) (rest : List Char) :
    skipPast mark construct (front ++ (mark.toList ++ rest)) = .ok (front, rest) := by
  rw [skipPast, (cutAt?_append_iff some_ rest).mpr ends]

theorem trimLeft_sign (c : Char) (low : 33 ≤ c.toNat) (high : c.toNat ≤ 126) (rest : List Char) :
    trimLeft (c :: rest) = c :: rest :=
  trimLeft_cons_visible (visible_of_range low high)

/-- A name that ends, in a tag, where it is meant to end. -/
def IsName (name : String) : Prop :=
  name ≠ "" ∧ ∀ c ∈ name.toList, isBlank c = false ∧ c ≠ '/' ∧ c ≠ '>' ∧ c ≠ '=' ∧ c ≠ '<'

/-- The characters that may follow a name. -/
def Bounded (rest : List Char) : Prop := ∀ c, rest.head? = some c → isNameEnd c = true

theorem ne_of_isNameEnd {c other : Char} (inside : isNameEnd c = false)
    (ends : isNameEnd other = true) : c ≠ other := by
  rintro rfl
  rw [ends] at inside
  cases inside

theorem visible_of_isNameEnd {c : Char} (inside : isNameEnd c = false) : isBlank c = false := by
  simp only [isNameEnd, Bool.or_eq_false_iff] at inside
  exact inside.1.1.1.1

theorem isNameEnd_of_isBlank {c : Char} (blank : isBlank c = true) : isNameEnd c = true := by
  simp [isNameEnd, blank]

theorem IsName.inside {name : String} (isName : IsName name) :
    ∀ c ∈ name.toList, isNameEnd c = false := by
  intro c member
  obtain ⟨visible, noSlash, noClose, noEqual, noOpen⟩ := isName.2 c member
  simp [isNameEnd, visible, noSlash, noClose, noEqual, noOpen]

theorem isName_of_inside {name : String} (some_ : name ≠ "")
    (inside : ∀ c ∈ name.toList, isNameEnd c = false) : IsName name := by
  refine ⟨some_, fun c member => ?_⟩
  have inside := inside c member
  exact ⟨visible_of_isNameEnd inside, ne_of_isNameEnd inside rfl, ne_of_isNameEnd inside rfl,
    ne_of_isNameEnd inside rfl, ne_of_isNameEnd inside rfl⟩

theorem IsName.some {name : String} (isName : IsName name) :
    ∃ c rest, name.toList = c :: rest ∧ isNameEnd c = false := by
  cases chars : name.toList with
  | nil => exact absurd (String.toList_eq_nil_iff.mp chars) isName.1
  | cons c rest => exact ⟨c, rest, rfl, isName.inside c (by simp [chars])⟩

theorem bounded_cons {c : Char} (ends : isNameEnd c = true) (rest : List Char) :
    Bounded (c :: rest) := by
  rintro d ⟨⟩
  exact ends

theorem bounded_blanks {blanks : List Char} (blank : ∀ c ∈ blanks, isBlank c = true)
    (bounded : Bounded rest) : Bounded (blanks ++ rest) := by
  cases blanks with
  | nil => exact bounded
  | cons c more => exact bounded_cons (isNameEnd_of_isBlank (blank c List.mem_cons_self)) _

theorem readName_written {name : String} (isName : IsName name) (bounded : Bounded rest) :
    readName (name.toList ++ rest) = .ok (name, rest) := by
  have span := span_of_boundary (fun c => !isNameEnd c)
    (show ∀ c ∈ name.toList, (!isNameEnd c) = true from fun c member => by
      simp [isName.inside c member])
    (show ∀ c, rest.head? = some c → (!isNameEnd c) = false from fun c first => by
      simp [bounded c first])
  simp [readName, span.1, isName.1]

theorem readName_eq_ok_iff {name : String} :
    readName chars = .ok (name, rest) ↔ IsName name ∧ Bounded rest ∧ chars = name.toList ++ rest := by
  constructor
  · intro found
    unfold readName at found
    dsimp only at found
    split at found
    · cases found
    · rename_i some_
      cases found
      rw [drop_length_takeWhile]
      refine ⟨isName_of_inside (by simpa using some_) fun c member => ?_, fun c first => ?_, ?_⟩
      · rw [String.toList_ofList] at member
        simpa using List.mem_takeWhile_imp member
      · have stops := List.head?_dropWhile_not (fun c => !isNameEnd c) chars
        rw [first] at stops
        simpa using stops
      · rw [String.toList_ofList, List.takeWhile_append_dropWhile]
  · rintro ⟨isName, bounded, rfl⟩
    exact readName_written isName bounded

/-- A mark without the signs of tags is looked for in the name alone. -/
theorem startsWith_name {name : String} (plain : ∀ c ∈ mark.toList, isNameEnd c = false)
    (bounded : Bounded rest) (free : ¬mark.toList <+: name.toList) :
    startsWith mark (name.toList ++ rest) = false := by
  rw [← Bool.not_eq_true, startsWith_iff]
  intro begins
  by_cases short : mark.toList.length ≤ name.toList.length
  · exact free (List.prefix_of_prefix_length_le begins (List.prefix_append _ rest) short)
  · -- The mark goes on behind the name, with a character that ends names.
    obtain ⟨more, same⟩ := List.prefix_of_prefix_length_le (List.prefix_append _ rest) begins
      (Nat.le_of_not_le short)
    cases more with
    | nil =>
      rw [List.append_nil] at same
      exact free (same ▸ List.prefix_refl _)
    | cons c more =>
      rw [← same, List.prefix_append_right_inj] at begins
      obtain ⟨tail, shape⟩ := begins
      have ends := bounded c (by rw [← shape]; rfl)
      rw [plain c (by simp [← same])] at ends
      cases ends

end

/-! ### Tags -/

section
variable (name : String) (fuel : Nat) {before rest : List Char}

theorem readTag_close (start : trimLeft before = '>' :: rest) :
    readTag name (fuel + 1) before = .ok ([], false, rest) := by
  rw [readTag, start]
  rfl

theorem readTag_closed (start : trimLeft before = '/' :: '>' :: rest) :
    readTag name (fuel + 1) before = .ok ([], true, rest) := by
  rw [readTag, start]
  rfl

theorem readTag_attribute {c : Char} (start : trimLeft before = c :: rest)
    (inside : isNameEnd c = false) :
    readTag name (fuel + 1) before = (do
      let (entry, afterEntry) ← readAttribute (c :: rest)
      let (attributes, closed, rest) ← readTag name fuel afterEntry
      pure (entry :: attributes, closed, rest)) := by
  rw [readTag, start]
  split
  · rename_i same
    cases same
    cases inside
  · rename_i same
    cases same
    cases inside
  · rename_i same
    cases same
  · rfl

/-- An end tag behind its slash. -/
theorem readEnd_written {name : String} (isName : IsName name) {margin : List Char}
    (blank : ∀ c ∈ margin, isBlank c = true) (rest : List Char) :
    readEnd name (name.toList ++ (margin ++ '>' :: rest)) = .ok rest := by
  have bounded : Bounded ('>' :: rest) := bounded_cons (by rfl) rest
  have named := readName_written isName (bounded_blanks blank bounded)
  have sign : trimLeft (margin ++ '>' :: rest) = '>' :: rest := trimLeft_blanks blank (by decide) rest
  simp [readEnd, named, bind, Except.bind, sign, expect]

end

/-! ### What an element holds -/

section
variable (parent : String) (fuel : Nat)

theorem readContent_end (chars : List Char) :
    readContent parent (fuel + 1) ('<' :: '/' :: chars) = (readEnd parent chars).map ([], ·) := by
  have closes : startsWith "</" ('<' :: '/' :: chars) = true := by rfl
  rw [readContent]
  simp only [List.isEmpty_cons, Bool.false_eq_true, if_false, closes, if_true, List.drop_succ_cons,
    List.drop_zero]
  rfl

theorem readContent_comment {chars : List Char} (starts : startsWith "<!--" chars = true) :
    readContent parent (fuel + 1) chars = (do
      let (_, rest) ← skipPast "-->" .comment chars
      readContent parent fuel rest) := by
  obtain ⟨tail, rfl⟩ := startsWith_iff.mp starts
  have some_ : ("<!--".toList ++ tail).isEmpty = false := by rfl
  have noEnd : startsWith "</" ("<!--".toList ++ tail) = false := by rfl
  rw [readContent]
  simp only [some_, noEnd, starts, Bool.false_eq_true, if_false, if_true]

theorem readContent_instruction {chars : List Char} (starts : startsWith "<?" chars = true) :
    readContent parent (fuel + 1) chars = (do
      let (_, rest) ← skipPast "?>" .instruction chars
      readContent parent fuel rest) := by
  obtain ⟨tail, rfl⟩ := startsWith_iff.mp starts
  have some_ : ("<?".toList ++ tail).isEmpty = false := by rfl
  have noEnd : startsWith "</" ("<?".toList ++ tail) = false := by rfl
  have noComment : startsWith "<!--" ("<?".toList ++ tail) = false := by rfl
  have noData : startsWith "<![CDATA[" ("<?".toList ++ tail) = false := by rfl
  rw [readContent]
  simp only [some_, noEnd, noComment, noData, starts, Bool.false_eq_true, if_false, if_true]

theorem readContent_data (chars : List Char) :
    readContent parent (fuel + 1) ("<![CDATA[".toList ++ chars) = (do
      let (data, afterData) ← skipPast "]]>" .cdata chars
      let (nodes, rest) ← readContent parent fuel afterData
      pure (.text (String.ofList data) :: nodes, rest)) := by
  have some_ : ("<![CDATA[".toList ++ chars).isEmpty = false := by rfl
  have noEnd : startsWith "</" ("<![CDATA[".toList ++ chars) = false := by rfl
  have noComment : startsWith "<!--" ("<![CDATA[".toList ++ chars) = false := by rfl
  have starts : startsWith "<![CDATA[" ("<![CDATA[".toList ++ chars) = true := by rfl
  have behind : ("<![CDATA[".toList ++ chars).drop 9 = chars := by rfl
  rw [readContent]
  simp only [some_, noEnd, noComment, starts, behind, Bool.false_eq_true, if_false, if_true]

theorem readContent_child {chars : List Char} (noEnd : startsWith "/" chars = false)
    (noComment : startsWith "!--" chars = false) (noData : startsWith "![CDATA[" chars = false)
    (noInstruction : startsWith "?" chars = false) :
    readContent parent (fuel + 1) ('<' :: chars) = (do
      let (element, afterElement) ← readElement fuel chars
      let (nodes, rest) ← readContent parent fuel afterElement
      pure (.element element :: nodes, rest)) := by
  have opens : startsWith "<" ('<' :: chars) = true := by rfl
  have behind (mark inner : String) (shape : mark.toList = '<' :: inner.toList) :
      startsWith mark ('<' :: chars) = startsWith inner chars := by
    simp [startsWith, shape]
  rw [readContent]
  simp only [List.isEmpty_cons, Bool.false_eq_true, if_false, behind "</" "/" rfl, noEnd,
    behind "<!--" "!--" rfl, noComment, behind "<![CDATA[" "![CDATA[" rfl, noData,
    behind "<?" "?" rfl, noInstruction, opens, if_true, List.drop_succ_cons, List.drop_zero]

theorem readContent_text {raw rest : List Char} (some_ : raw ≠ []) (free : '<' ∉ raw)
    (bounded : rest.head? = some '<') :
    readContent parent (fuel + 1) (raw ++ rest) = (do
      let (nodes, rest) ← readContent parent fuel rest
      pure (.text (String.ofList (decodeReferences raw)) :: nodes, rest)) := by
  have inside : ∀ c ∈ raw, (c != '<') = true := by
    intro c member
    rw [bne_iff_ne]
    rintro rfl
    exact free member
  have stops : ∀ c, rest.head? = some c → (c != '<') = false := by
    intro c first
    rw [bounded] at first
    cases first
    rfl
  have span := (span_of_boundary (fun c => c != '<') inside stops).1
  cases raw with
  | nil => exact absurd rfl some_
  | cons c tail =>
    have different : '<' ≠ c := fun same => free (same ▸ List.mem_cons_self)
    have noMark (mark : String) {more : List Char} (shape : mark.toList = '<' :: more) :
        startsWith mark (c :: (tail ++ rest)) = false := startsWith_of_ne shape different
    have dropped : (c :: (tail ++ rest)).drop (c :: tail).length = rest := by
      rw [← List.cons_append, List.drop_left]
    rw [List.cons_append] at span ⊢
    rw [readContent]
    simp only [List.isEmpty_cons, Bool.false_eq_true, if_false, noMark "</" rfl,
      noMark "<!--" rfl, noMark "<![CDATA[" rfl, noMark "<?" rfl,
      noMark "<" rfl, span, dropped]

/-- Text runs up to an angle bracket, and there is some of it in front of anything else. -/
theorem takeWhile_text_pos {chars : List Char} (some_ : chars.isEmpty = false)
    (noBracket : startsWith "<" chars = false) :
    0 < (chars.takeWhile (· != '<')).length := by
  cases chars with
  | nil => cases some_
  | cons c tail =>
    have different : (c != '<') = true := by
      rw [bne_iff_ne]
      rintro rfl
      cases noBracket
    simp [different]

end

/-! ### Around the root -/

/-- Nothing that is skipped around the root stands in front. -/
structure Settled (chars : List Char) : Prop where
  noInstruction : startsWith "<?" chars = false
  noComment : startsWith "<!--" chars = false
  noType : startsWith "<!DOCTYPE" chars = false
  noLowerType : startsWith "<!doctype" chars = false

section
variable (fuel : Nat) {before chars : List Char}

theorem skipMisc_settled (settled : Settled (trimLeft before)) :
    skipMisc (fuel + 1) before = .ok (trimLeft before) := by
  rw [skipMisc]
  simp [settled.noInstruction, settled.noComment, settled.noType, settled.noLowerType, pure,
    Except.pure]

theorem skipMisc_instruction (starts : startsWith "<?" chars = true) :
    skipMisc (fuel + 1) chars = (do
      let (_, rest) ← skipPast "?>" .instruction chars
      skipMisc fuel rest) := by
  obtain ⟨tail, rfl⟩ := startsWith_iff.mp starts
  have visible : trimLeft ("<?".toList ++ tail) = "<?".toList ++ tail :=
    trimLeft_cons_visible (by decide)
  rw [skipMisc, visible]
  simp only [starts, if_true]

theorem skipMisc_comment (starts : startsWith "<!--" chars = true) :
    skipMisc (fuel + 1) chars = (do
      let (_, rest) ← skipPast "-->" .comment chars
      skipMisc fuel rest) := by
  obtain ⟨tail, rfl⟩ := startsWith_iff.mp starts
  have visible : trimLeft ("<!--".toList ++ tail) = "<!--".toList ++ tail :=
    trimLeft_cons_visible (by decide)
  have noInstruction : startsWith "<?" ("<!--".toList ++ tail) = false := by rfl
  rw [skipMisc, visible]
  simp only [noInstruction, starts, Bool.false_eq_true, if_false, if_true]

theorem skipMisc_documentType {rest : List Char}
    (opens : startsWith "<!DOCTYPE" chars = true ∨ startsWith "<!doctype" chars = true)
    (ends : afterDocumentType? 0 chars = some rest) :
    skipMisc (fuel + 1) chars = skipMisc fuel rest := by
  have shape : ∃ c tail, (c = 'D' ∨ c = 'd') ∧ chars = '<' :: '!' :: c :: tail := by
    rcases opens with opens | opens
    · obtain ⟨tail, rfl⟩ := startsWith_iff.mp opens
      exact ⟨'D', _, .inl rfl, rfl⟩
    · obtain ⟨tail, rfl⟩ := startsWith_iff.mp opens
      exact ⟨'d', _, .inr rfl, rfl⟩
  obtain ⟨c, tail, sign, rfl⟩ := shape
  have noInstruction : startsWith "<?" ('<' :: '!' :: c :: tail) = false := by rfl
  have noComment : startsWith "<!--" ('<' :: '!' :: c :: tail) = false := by
    rcases sign with rfl | rfl <;> rfl
  rw [skipMisc, trimLeft_sign _ (by decide) (by decide)]
  simp only [noInstruction, noComment, Bool.or_eq_true, opens, ends, Bool.false_eq_true, if_false,
    if_true]

end

end ApiProbe.Xml
