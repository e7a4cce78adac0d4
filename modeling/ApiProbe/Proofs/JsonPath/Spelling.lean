import ApiProbe.JsonPath.Query
import ApiProbe.Proofs.Decimal.Written
import ApiProbe.Proofs.JsonPath.Continuation

/-!
Single steps down a document and how they are written: a member by its name, in quotes or bare, and
an item by its position, from the start or from the end. Every spelling is read back as a step that
leads to the value meant and to no other.
-/
namespace ApiProbe.JsonPath
open Text

/-- A step from a value to one right below it. -/
inductive Move
  | member (key : String)
  | item (position : Nat)
  deriving Repr, DecidableEq

/-- The value that a move leads to. -/
def Move.target? : Move → Json → Option Json
  | .member key, node => node.member? key
  | .item position, .arr items => items[position]?
  | .item _, _ => none

/-- The ways to write a move from a value. -/
inductive Spells (node : Json) : Move → String → Prop
  | quoted {key : String} (quote : Char) (isQuote : quote = '\'' ∨ quote = '"')
      (free : quote ∉ key.toList) :
      Spells node (.member key) ("[" ++ String.singleton quote ++ key ++ String.singleton quote ++ "]")
  | bare {key : String} (visible : key ≠ "") (plain : '.' ∉ key.toList ∧ '[' ∉ key.toList)
      (trimmed : Text.trim key = key) (noStar : key.toList.head? ≠ some '*') :
      Spells node (.member key) ("." ++ key)
  | fromStart (position : Nat) : Spells node (.item position) ("[" ++ toString position ++ "]")
  | fromEnd {items : List Json} (position : Nat) (isList : node = .arr items) :
      Spells node (.item position)
        ("[" ++ toString (Int.ofNat position - Int.ofNat items.length) ++ "]")

/-- True of the rest of a path that does not lengthen the name in front of it. -/
def Bounded (rest : List Char) : Prop := ∀ c, rest.head? = some c → isNameEnd c = true

variable {quote : Char} {key rest inner : List Char}

theorem visible_of_isQuote (quotes : isQuote quote = true) : isBlank quote = false := by
  simp only [isQuote, Bool.or_eq_true, beq_iff_eq] at quotes
  rcases quotes with rfl | rfl <;> decide

theorem ne_of_isQuote (quotes : isQuote quote = true) :
    quote ≠ '[' ∧ quote ≠ '(' ∧ quote ≠ ']' ∧ quote ≠ ')' ∧ quote ≠ ',' ∧ quote ≠ '?' ∧ quote ≠ '*' := by
  simp only [isQuote, Bool.or_eq_true, beq_iff_eq] at quotes
  rcases quotes with rfl | rfl <;> decide

/-- Brackets inside quotes are passed over. -/
theorem splitClosing_opened (free : quote ∉ key) (depth : Nat) (rest : List Char) :
    splitClosing (some quote) depth (key ++ quote :: rest) =
      (splitClosing none depth rest).map fun (inner, after) => (key ++ quote :: inner, after) := by
  induction key with
  | nil => simp [splitClosing, quoteAfter]
  | cons c key ih =>
    obtain ⟨different, free⟩ := not_or.mp (fun found => free (List.mem_cons.mpr found))
    have other : (c == quote) = false := beq_eq_false_iff_ne.mpr (Ne.symm different)
    simp only [List.cons_append, splitClosing, quoteAfter, other, ih free, Option.isNone_some,
      Bool.false_and, Bool.false_eq_true, if_false, Option.map_map]
    rfl

theorem splitClosing_quoted (quotes : isQuote quote = true) (free : quote ∉ key)
    (rest : List Char) :
    splitClosing none 1 (quote :: (key ++ [quote]) ++ ']' :: rest) =
      some (quote :: (key ++ [quote]), rest) := by
  have shape : quote :: (key ++ [quote]) ++ ']' :: rest = quote :: (key ++ quote :: ']' :: rest) := by
    simp
  obtain ⟨h1, h2, h3, h4, -⟩ := ne_of_isQuote quotes
  have opens : quoteAfter none quote = some quote := by simp [quoteAfter, quotes]
  rw [shape, splitClosing]
  simp only [opens, splitClosing_opened free]
  simp [h1, h2, h3, h4, splitClosing]

theorem isQuote_numeral {c : Char} (numeral : Decimal.isNumeral c = true) : isQuote c = false := by
  simp [isQuote, Decimal.ne_of_isNumeral numeral '\'' (by decide),
    Decimal.ne_of_isNumeral numeral '"' (by decide)]

/-- True of characters that no bracket and no quote is among. -/
def isInert (c : Char) : Bool := !isQuote c && c != '[' && c != '(' && c != ']' && c != ')'

/-- Characters without quotes and brackets are passed over. -/
theorem splitClosing_inert {front : List Char} (inert : ∀ c ∈ front, isInert c = true) (depth : Nat)
    (rest : List Char) :
    splitClosing none depth (front ++ rest) =
      (splitClosing none depth rest).map fun (inner, after) => (front ++ inner, after) := by
  induction front with
  | nil => simp
  | cons c front ih =>
    have own := inert c List.mem_cons_self
    simp only [isInert, Bool.and_eq_true, Bool.not_eq_true', bne_iff_ne] at own
    obtain ⟨⟨⟨⟨quote, square⟩, round⟩, square'⟩, round'⟩ := own
    have same : quoteAfter none c = none := by simp [quoteAfter, quote]
    have others := ih fun d member => inert d (List.mem_cons_of_mem c member)
    simp only [List.cons_append, splitClosing, same, others, Option.isNone_none, Bool.true_and,
      beq_eq_false_iff_ne.mpr square, beq_eq_false_iff_ne.mpr round,
      beq_eq_false_iff_ne.mpr square', beq_eq_false_iff_ne.mpr round', Bool.or_false,
      Bool.false_eq_true, if_false, Option.map_map]
    rfl

theorem isInert_numeral {c : Char} (numeral : Decimal.isNumeral c = true) : isInert c = true := by
  have foreign (other : Char) (foreign : Decimal.isNumeral other = false) : (c != other) = true :=
    bne_iff_ne.mpr (Decimal.ne_of_isNumeral numeral other foreign)
  simp [isInert, isQuote_numeral numeral, foreign '[' (by decide), foreign '(' (by decide),
    foreign ']' (by decide), foreign ')' (by decide)]

theorem splitClosing_plain (plain : ∀ c ∈ inner, Decimal.isNumeral c = true) (rest : List Char) :
    splitClosing none 1 (inner ++ ']' :: rest) = some (inner, rest) := by
  rw [splitClosing_inert fun c member => isInert_numeral (plain c member)]
  simp [splitClosing]

/-- Commas inside quotes separate nothing. -/
theorem splitParts_opened (free : quote ∉ key) :
    splitParts ',' (some quote) (key ++ [quote]) = [key ++ [quote]] := by
  induction key with
  | nil => simp [splitParts]
  | cons c key ih =>
    obtain ⟨different, free⟩ := not_or.mp (fun found => free (List.mem_cons.mpr found))
    have other : (c == quote) = false := beq_eq_false_iff_ne.mpr (Ne.symm different)
    simp [splitParts, quoteAfter, other, ih free]

theorem splitParts_quoted (quotes : isQuote quote = true) (free : quote ∉ key) :
    splitParts ',' none (quote :: (key ++ [quote])) = [quote :: (key ++ [quote])] := by
  have opens : quoteAfter none quote = some quote := by simp [quoteAfter, quotes]
  obtain ⟨-, -, -, -, noComma, -⟩ := ne_of_isQuote quotes
  simp [splitParts, opens, noComma, splitParts_opened free]

theorem splitParts_plain (plain : ∀ c ∈ inner, Decimal.isNumeral c = true) :
    splitParts ',' none inner = [inner] := by
  induction inner with
  | nil => rfl
  | cons c inner ih =>
    have numeral := plain c (by simp)
    have same : quoteAfter none c = none := by simp [quoteAfter, isQuote_numeral numeral]
    have others := ih fun d member => plain d (by simp [member])
    simp [splitParts, same, others, Decimal.ne_of_isNumeral numeral ',' (by decide)]

theorem quoted?_quoted (quotes : isQuote quote = true) (key : List Char) :
    quoted? (quote :: (key ++ [quote])) = some key := by
  simp [quoted?, quotes]

/-- A quoted name in brackets, whatever signs are in it. -/
theorem readContent_quoted (quotes : isQuote quote = true) (free : quote ∉ key) :
    readContent (quote :: (key ++ [quote])) = .ok (.done (.pick (.name (String.ofList key)))) := by
  have visible := visible_of_isQuote quotes
  have trimmed : trimChars (quote :: (key ++ [quote])) = quote :: (key ++ [quote]) :=
    trimChars_framed visible visible key
  obtain ⟨-, -, -, -, -, noFilter, noStar⟩ := ne_of_isQuote quotes
  have content : readContent (quote :: (key ++ [quote])) =
      (readSelector (quote :: (key ++ [quote]))).map .done := by
    unfold readContent
    rw [trimmed]
    split
    · rename_i same
      cases same
    · rename_i same
      cases same
      exact absurd rfl noFilter
    · rfl
  rw [content, readSelector]
  simp [splitParts_quoted quotes free, quoted?_quoted quotes, readPick, noStar]
  rfl

/-- A position in brackets. -/
theorem readContent_numeral {position : Int} (some_ : inner ≠ [])
    (plain : ∀ c ∈ inner, Decimal.isNumeral c = true)
    (value : Decimal.readInt64? inner = some position) :
    readContent inner = .ok (.done (.pick (.index position))) := by
  have visible : ∀ c ∈ inner, isBlank c = false := fun c member =>
    Decimal.visible_of_isNumeral (plain c member)
  have trimmed : trimChars inner = inner := trimChars_eq_self
    (fun c first => visible c (List.mem_of_head? first))
    (fun c last => visible c (List.mem_of_getLast? last))
  have noColon : inner.contains ':' = false := by
    rw [List.contains_eq_mem, decide_eq_false_iff_not]
    intro member
    exact Decimal.ne_of_isNumeral (plain ':' member) ':' (by decide) rfl
  cases inner with
  | nil => exact absurd rfl some_
  | cons c rest =>
    have numeral := plain c (by simp)
    have noQuote : quoted? (c :: rest) = none := by simp [quoted?, isQuote_numeral numeral]
    have noStar : (c :: rest == ['*']) = false := by
      simp [Decimal.ne_of_isNumeral numeral '*' (by decide)]
    have content : readContent (c :: rest) = (readSelector (c :: rest)).map .done := by
      unfold readContent
      rw [trimmed]
      split
      · rename_i same
        cases same
      · rename_i same
        cases same
        exact absurd numeral (by decide)
      · rfl
    rw [content, readSelector]
    simp only [splitParts_plain plain, noStar, noColon, readPick, noQuote, value]
    rfl

theorem readStep_brackets {content : Content}
    (closing : splitClosing none 1 (inner ++ ']' :: rest) = some (inner, rest))
    (inside : readContent inner = .ok content) :
    readStep ('[' :: (inner ++ ']' :: rest)) = .ok (false, content, rest) := by
  rw [readStep, readBrackets, closing]
  simp only [inside]
  rfl

theorem readStep_position {position : Int} (fits : Decimal.fits64 position = true)
    (rest : List Char) :
    readStep (("[" ++ toString position ++ "]").toList ++ rest) =
      .ok (false, .done (.pick (.index position)), rest) := by
  obtain ⟨some_, plain⟩ := Decimal.toString_numeral position
  have step := readStep_brackets (splitClosing_plain plain rest)
    (readContent_numeral some_ plain (Decimal.readInt64?_toString fits))
  simpa using step

/-- A bare name goes up to the end of the path or to its next step. -/
theorem readStep_bare (some_ : key ≠ []) (plain : ∀ c ∈ key, isNameEnd c = false)
    (trimmed : trimChars key = key) (noStar : key.head? ≠ some '*') (bounded : Bounded rest) :
    readStep ('.' :: (key ++ rest)) = .ok (false, .done (.pick (.name (String.ofList key))), rest) := by
  have span := span_of_boundary (fun c => !isNameEnd c)
    (show ∀ c ∈ key, (!isNameEnd c) = true from fun c member => by simp [plain c member])
    (show ∀ c, rest.head? = some c → (!isNameEnd c) = false from fun c first => by
      simp [bounded c first])
  have named : readName (key ++ rest) = .ok (String.ofList key, rest) := by
    simp [readName, span.1, span.2, trimmed, some_]
  cases key with
  | nil => exact absurd rfl some_
  | cons c tail =>
    have noEnd := plain c (by simp)
    have flat : (c :: tail ++ rest).head? ≠ some '.' := by
      intro first
      cases first
      cases noEnd
    rw [readStep_flat flat, readStarOrName, named]
    · rfl
    · intro other same
      cases same
      exact noStar rfl

theorem itemAt_fromStart (items : List Json) (position : Nat) :
    itemAt items (Int.ofNat position) = items[position]? := by
  have start : 0 ≤ Int.ofNat position := Int.natCast_nonneg position
  simp only [itemAt, if_neg (Int.not_lt.mpr start), if_pos start]
  rfl

theorem itemAt_fromEnd {items : List Json} {position : Nat} (inside : position < items.length) :
    itemAt items (Int.ofNat position - Int.ofNat items.length) = items[position]? := by
  have start : 0 ≤ Int.ofNat position := Int.natCast_nonneg position
  have below : Int.ofNat position - Int.ofNat items.length < 0 := by
    simp only [Int.ofNat_eq_natCast]
    omega
  have place : Int.ofNat items.length + (Int.ofNat position - Int.ofNat items.length) =
      Int.ofNat position := by omega
  simp only [itemAt, if_pos below, place, if_pos start]
  rfl

/-- A spelled step starts where a name ends. -/
theorem Spells.bounded {node : Json} {move : Move} {text : String} (spelled : Spells node move text)
    (rest : List Char) : Bounded (text.toList ++ rest) := by
  intro c first
  cases spelled <;>
    simp only [String.toList_append, List.append_assoc] at first <;> cases first <;> rfl

/-- A spelled step ends in something that can be seen. -/
theorem Spells.visible {node : Json} {move : Move} {text : String} (spelled : Spells node move text) :
    ∃ front last, text.toList = front ++ [last] ∧ isBlank last = false := by
  have closed (inner : String) : ∃ front last, (inner ++ "]").toList = front ++ [last] ∧
      isBlank last = false :=
    ⟨inner.toList, ']', by rw [String.toList_append]; rfl, by decide⟩
  cases spelled with
  | quoted | fromStart | fromEnd => exact closed _
  | @bare key named plain trimmed noStar =>
    have trimmed := trimChars_of_trim trimmed
    have named : key.toList ≠ [] := fun none => named (String.toList_eq_nil_iff.mp none)
    refine ⟨'.' :: key.toList.dropLast, key.toList.getLast named, ?_, ?_⟩
    · rw [String.toList_append, List.cons_append, List.dropLast_concat_getLast]
      rfl
    · have last : (trimRight (trimLeft key.toList)).getLast? = some (key.toList.getLast named) := by
        rw [← trimChars, trimmed, List.getLast?_eq_some_getLast named]
      exact visible_of_trimRight last

/-- What is written for a move is read as a step that leads where the move leads. -/
theorem Spells.read {node child : Json} {move : Move} {text : String}
    (spelled : Spells node move text) (leads : move.target? node = some child)
    (small : ∀ items, node = .arr items → Int.ofNat items.length ≤ Decimal.int64Max) :
    ∃ pick : Pick, pick.select node = [child] ∧
      ∀ rest, Bounded rest →
        readStep (text.toList ++ rest) = .ok (false, .done (.pick pick), rest) := by
  cases spelled with
  | @quoted key quote quotes free =>
    have quotes : isQuote quote = true := by simpa [isQuote] using quotes
    refine ⟨.name key, by simp [Pick.select, show node.member? key = some child from leads], ?_⟩
    intro rest _
    have step := readStep_brackets (splitClosing_quoted quotes free rest)
      (readContent_quoted quotes free)
    simpa using step
  | @bare key named plain trimmed noStar =>
    have trimmed := trimChars_of_trim trimmed
    have named : key.toList ≠ [] := fun none => named (String.toList_eq_nil_iff.mp none)
    have noEnd : ∀ c ∈ key.toList, isNameEnd c = false := by
      intro c member
      simp only [isNameEnd, Bool.or_eq_false_iff, beq_eq_false_iff_ne]
      exact ⟨fun same => plain.1 (same ▸ member), fun same => plain.2 (same ▸ member)⟩
    refine ⟨.name key, by simp [Pick.select, show node.member? key = some child from leads], ?_⟩
    intro rest bounded
    have step := readStep_bare named noEnd trimmed noStar bounded
    simpa using step
  | fromStart position =>
    cases node with
    | arr items =>
      have found : items[position]? = some child := leads
      have inside : position < items.length := (List.getElem?_eq_some_iff.mp found).1
      have fits := (Decimal.fits64_position inside (small items rfl)).1
      refine ⟨.index (Int.ofNat position), ?_, fun rest _ => readStep_position fits rest⟩
      rw [Pick.select, itemAt_fromStart, found]
      rfl
    | _ => cases leads
  | @fromEnd items position isList =>
    subst isList
    have found : items[position]? = some child := leads
    have inside : position < items.length := (List.getElem?_eq_some_iff.mp found).1
    have fits := (Decimal.fits64_position inside (small items rfl)).2
    refine ⟨.index _, ?_, fun rest _ => readStep_position fits rest⟩
    rw [Pick.select, itemAt_fromEnd inside, found]
    rfl

end ApiProbe.JsonPath
