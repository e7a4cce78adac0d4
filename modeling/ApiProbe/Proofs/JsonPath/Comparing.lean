import ApiProbe.Proofs.JsonPath.Spelling

/-!
Filters that compare a member with a literal. Such a filter is read as it is written, whatever signs are
in its literal, provided that brackets and relations outside the literal are not mistaken for others; and
it keeps the children that have the member and whose member stands in the relation to the literal.
-/
namespace ApiProbe.JsonPath
open Text

/-- A relation as it is written in a filter. -/
def Relation.symbol : Relation → String
  | .eq => "=="
  | .ne => "!="
  | .lt => "<"
  | .le => "<="
  | .gt => ">"
  | .ge => ">="

/-- True of characters that may stand anywhere in a key that a filter names without quotes. -/
def isFree (c : Char) : Bool := isInert c && c != '.' && c != '=' && c != '<' && c != '>'

/-- A key that a filter can name without quotes. -/
structure Bare (key : String) : Prop where
  named : key ≠ ""
  trimmed : Text.trim key = key
  noStar : key.toList.head? ≠ some '*'
  free : ∀ c ∈ key.toList, isFree c = true

/-- A text that is read as a literal: it has no outer blanks, and the brackets around it are found behind
it as if it were not there. -/
structure IsLiteral (text : List Char) (value : Json) : Prop where
  read : readLiteral text = .ok value
  some_ : text ≠ []
  trimmed : trimChars text = text
  passed : ∀ depth rest, splitClosing none depth (text ++ rest) =
    (splitClosing none depth rest).map fun (inner, after) => (text ++ inner, after)

theorem ne_of_isFree {c : Char} (free : isFree c = true) :
    isInert c = true ∧ c ≠ '.' ∧ c ≠ '=' ∧ c ≠ '<' ∧ c ≠ '>' := by
  simpa [isFree, and_assoc] using free

theorem isInert_symbol (relation : Relation) : ∀ c ∈ relation.symbol.toList, isInert c = true :=
  List.all_eq_true.mp (by cases relation <;> decide)

/-- No relation starts at a sign that is part of none but as an exclamation mark. -/
theorem find?_relations_eq_none {c : Char} {rest : List Char} (plain : c ≠ '=' ∧ c ≠ '<' ∧ c ≠ '>')
    (next : rest.head? ≠ some '=') :
    (relations.find? fun entry => entry.1.isPrefixOf (c :: rest)) = none := by
  obtain ⟨equals, less, greater⟩ := plain
  rw [List.find?_eq_none]
  cases rest with
  | nil => simp [relations, less.symm, greater.symm]
  | cons d rest =>
    have other : '=' ≠ d := fun same => next (congrArg some same.symm)
    simp [relations, equals.symm, less.symm, greater.symm, other]

/-- No relation is found before a blank that stands behind signs of none. -/
theorem splitRelation_plain {front : List Char}
    (plain : ∀ c ∈ front, isQuote c = false ∧ c ≠ '=' ∧ c ≠ '<' ∧ c ≠ '>') (rest : List Char) :
    splitRelation none (front ++ ' ' :: rest) =
      (splitRelation none (' ' :: rest)).map fun (left, relation, right) =>
        (front ++ left, relation, right) := by
  induction front with
  | nil => simp
  | cons c front ih =>
    obtain ⟨quote, signs⟩ := plain c List.mem_cons_self
    have others := ih fun d member => plain d (List.mem_cons_of_mem c member)
    have same : quoteAfter none c = none := by simp [quoteAfter, quote]
    have next : (front ++ ' ' :: rest).head? ≠ some '=' := by
      cases front with
      | nil => simp
      | cons d front =>
        intro first
        exact (plain d (by simp)).2.1 (Option.some.inj first)
    simp only [List.cons_append, splitRelation, same, quote, find?_relations_eq_none signs next,
      Option.isSome_none, Bool.or_false, Bool.false_eq_true, if_false]
    rw [others, Option.map_map]
    rfl

theorem filterPath_bare {key : String} (bare : Bare key) :
    filterPath ('@' :: '.' :: (key.toList ++ [' '])) = .ok ('.' :: key.toList) := by
  have trimmed := trimChars_of_trim bare.trimmed
  have last : ∀ c, key.toList.getLast? = some c → isBlank c = false := by
    intro c last
    rw [← trimmed, trimChars] at last
    exact visible_of_trimRight last
  have root : isBlank '@' = false := by decide
  have dot : isBlank '.' = false := by decide
  have whole : trimChars ('@' :: '.' :: (key.toList ++ [' '])) = '@' :: '.' :: key.toList := by
    calc trimChars ('@' :: '.' :: (key.toList ++ [' ']))
      _ = trimChars ('@' :: '.' :: key.toList) :=
        trimChars_append_blanks (List.forall_mem_singleton.mpr (show isBlank ' ' = true by decide))
          ('@' :: '.' :: key.toList)
      _ = trimRight (['@'] ++ '.' :: key.toList) := by
        rw [trimChars, trimLeft_cons_visible root]
        rfl
      _ = '@' :: '.' :: key.toList := by
        rw [trimRight_append_visible dot, trimRight_eq_self last]
        rfl
  simp only [filterPath, whole]

/-- What a filter compares, as it is written between the parentheses. -/
def comparing (key : String) (relation : Relation) (literal : List Char) : List Char :=
  '@' :: '.' :: (key.toList ++ ' ' :: (relation.symbol.toList ++ ' ' :: literal))

section Reading
variable {key : String} {relation : Relation} {literal : List Char} {value : Json}

theorem splitRelation_comparing (bare : Bare key) :
    splitRelation none (comparing key relation literal) =
      some ('@' :: '.' :: (key.toList ++ [' ']), relation, ' ' :: literal) := by
  have plain : ∀ c ∈ '@' :: '.' :: key.toList,
      isQuote c = false ∧ c ≠ '=' ∧ c ≠ '<' ∧ c ≠ '>' := by
    intro c member
    simp only [List.mem_cons] at member
    rcases member with rfl | rfl | member
    · decide
    · decide
    · obtain ⟨inert, -, signs⟩ := ne_of_isFree (bare.free c member)
      simp only [isInert, Bool.and_eq_true, Bool.not_eq_true'] at inert
      exact ⟨inert.1.1.1.1, signs⟩
  have here : splitRelation none (' ' :: (relation.symbol.toList ++ ' ' :: literal)) =
      some ([' '], relation, ' ' :: literal) := by
    cases relation <;> rfl
  have whole := splitRelation_plain plain (relation.symbol.toList ++ ' ' :: literal)
  rw [here] at whole
  simpa [comparing] using whole

variable (isLiteral : IsLiteral literal value)
include isLiteral

theorem trimChars_comparing : trimChars (comparing key relation literal) =
    comparing key relation literal := by
  obtain ⟨front, last, shape⟩ := (List.eq_nil_or_concat literal).resolve_left isLiteral.some_
  rw [List.concat_eq_append] at shape
  subst shape
  have visible : isBlank last = false := by
    have trimmed : (trimRight (trimLeft (front ++ [last]))).getLast? = some last := by
      rw [← trimChars, isLiteral.trimmed, List.getLast?_concat]
    exact visible_of_trimRight trimmed
  have split : comparing key relation (front ++ [last]) =
      '@' :: ('.' :: (key.toList ++ ' ' :: (relation.symbol.toList ++ ' ' :: front)) ++ [last]) := by
    simp [comparing]
  rw [split]
  exact trimChars_framed (by decide) visible _

/-- The closing bracket of a comparison is found behind its literal. -/
theorem splitClosing_comparing (bare : Bare key) (depth : Nat) (rest : List Char) :
    splitClosing none depth (comparing key relation literal ++ rest) =
      (splitClosing none depth rest).map fun (inner, after) =>
        (comparing key relation literal ++ inner, after) := by
  have inert : ∀ c ∈ comparing key relation [], isInert c = true := by
    intro c member
    simp only [comparing, List.mem_cons, List.mem_append, List.not_mem_nil, or_false] at member
    rcases member with rfl | rfl | member | rfl | member | rfl
    · decide
    · decide
    · exact (ne_of_isFree (bare.free c member)).1
    · decide
    · exact isInert_symbol relation c member
    · decide
  have split : comparing key relation literal = comparing key relation [] ++ literal := by
    simp [comparing]
  rw [split, List.append_assoc, splitClosing_inert inert, isLiteral.passed, Option.map_map]
  simp [Function.comp_def]

/-- A comparison is read as a filter of its key. -/
theorem readContent_comparing (bare : Bare key) :
    readContent ('?' :: '(' :: (comparing key relation literal ++ [')'])) =
      .ok (.filter ('.' :: key.toList) (some (relation, value))) := by
  have outer : trimChars ('?' :: '(' :: (comparing key relation literal ++ [')'])) =
      '?' :: '(' :: (comparing key relation literal ++ [')']) :=
    trimChars_framed (by decide) (by decide) ('(' :: comparing key relation literal)
  have middle : trimChars ('(' :: (comparing key relation literal ++ [')'])) =
      '(' :: (comparing key relation literal ++ [')']) :=
    trimChars_framed (by decide) (by decide) (comparing key relation literal)
  have opened : parenthesized? ('(' :: (comparing key relation literal ++ [')'])) =
      some (comparing key relation literal) := by
    simp [parenthesized?]
  have right : trimChars (' ' :: literal) = literal := by
    have blank : isBlank ' ' = true := by decide
    rw [trimChars, trimLeft, List.dropWhile_cons_of_pos blank]
    exact isLiteral.trimmed
  rw [readContent, outer]
  simp only [readFilter, middle, opened, trimChars_comparing isLiteral, splitRelation_comparing bare,
    right, isLiteral.read, filterPath_bare bare]
  rfl

/-- A filter in brackets is read as one step. -/
theorem readStep_comparing (bare : Bare key) :
    readStep ('[' :: ('?' :: '(' :: (comparing key relation literal ++ [')']) ++ [']'])) =
      .ok (false, .filter ('.' :: key.toList) (some (relation, value)), []) := by
  apply readStep_brackets _ (readContent_comparing isLiteral bare)
  have closes := @splitClosing_comparing key relation literal value isLiteral bare 2 [')', ']']
  simp only [splitClosing] at closes ⊢
  simp [quoteAfter, isQuote, closes, splitClosing]

/-- The path of a filter that compares a member with a literal. -/
theorem read_comparing (bare : Bare key) {text : String} (written : text.toList = literal) :
    read ("$[?(@." ++ key ++ " " ++ relation.symbol ++ " " ++ text ++ ")]") =
      .ok [.child (.filter [.child (.pick (.name key))] (some (relation, value)))] := by
  have trimmed := trimChars_of_trim bare.trimmed
  have named : key.toList ≠ [] := fun none => bare.named (String.toList_eq_nil_iff.mp none)
  have noEnd : ∀ c ∈ key.toList, isNameEnd c = false := by
    intro c member
    obtain ⟨inert, noDot, -⟩ := ne_of_isFree (bare.free c member)
    simp only [isInert, Bool.and_eq_true, bne_iff_ne] at inert
    simp [isNameEnd, noDot, inert.1.1.1.2]
  have inside : readSegments ('.' :: key.toList) = .ok [.child (.pick (.name key))] := by
    have step : readStep ('.' :: (key.toList ++ [])) = _ :=
      readStep_bare named noEnd trimmed bare.noStar fun c first => by cases first
    rw [List.append_nil, String.ofList_toList,
      ← trimLeft_cons_visible (show isBlank '.' = false by decide)] at step
    rw [readSegments_step step (.done _), readSegments_blank rfl]
    rfl
  have whole : ("$[?(@." ++ key ++ " " ++ relation.symbol ++ " " ++ text ++ ")]").toList =
      '$' :: ('[' :: ('?' :: '(' :: (comparing key relation literal ++ [')'])) ++ [']']) := by
    simp [comparing, written]
  rw [read_eq_ok, whole, trimChars_framed (by decide) (by decide)]
  have step := @readStep_comparing key relation literal value isLiteral bare
  rw [← trimLeft_cons_visible (show isBlank '[' = false by decide)] at step
  calc readSegments ('[' :: ('?' :: '(' :: (comparing key relation literal ++ [')']) ++ [']']))
    _ = (readSegments []).map (segment false _ :: ·) := readSegments_step step (.filter inside _)
    _ = _ := by
      rw [readSegments_blank rfl]
      rfl

end Reading

theorem keep_eq_filter {items : List Json} {passes : Json → Except Abort Bool} {test : Json → Bool}
    (pure : ∀ item ∈ items, passes item = .ok (test item)) :
    keep passes items = .ok (items.filter test) := by
  induction items with
  | nil => rfl
  | cons item rest ih =>
    rw [keep, pure item List.mem_cons_self, ih fun other member => pure other (.tail item member),
      List.filter_cons]
    rfl

/-- A filter keeps the children that have the member and whose member stands in the relation to the
literal. -/
theorem follow_comparing (key : String) (relation : Relation) (literal node : Json) :
    follow [.child (.filter [.child (.pick (.name key))] (some (relation, literal)))] [node] =
      .ok (node.children.filter fun child => (child.member? key).any (relation.test · literal)) := by
  have each : ∀ child ∈ node.children,
      (follow [.child (.pick (.name key))] [child]).map (passes (some (relation, literal))) =
        .ok ((child.member? key).any (relation.test · literal)) := by
    intro child _
    rw [follow, gather_singleton, Segment.select, Selector.select, Pick.select]
    cases child.member? key <;> rfl
  rw [follow, gather_singleton, Segment.select, Selector.select, keep_eq_filter each]
  rfl

end ApiProbe.JsonPath
