import ApiProbe.Proofs.Decimal.Nearest
import ApiProbe.Proofs.JsonPath.Comparing
import ApiProbe.Proofs.Json.RoundTrip
import ApiProbe.Proofs.Text.ByteOrder
import Mathlib.Algebra.Group.Int.Defs

/-!
Filters that compare a member with a literal.
-/
namespace ApiProbe.JsonPath
open Text

/-!
### Integers

A filter compares numbers as floating-point numbers, so it compares integers after rounding them. That
tells the same as comparing the integers themselves, except of different integers that are rounded to one
value.
-/

namespace Relation

/-- A relation of integers. -/
def between (relation : Relation) (a b : Int) : Bool :=
  match relation with
  | .eq => a = b
  | .ne => a ≠ b
  | .lt => a < b
  | .le => a ≤ b
  | .gt => b < a
  | .ge => b ≤ a

/-- Rounding loses what a relation says of two integers: they are rounded to the same value, and it
takes their difference to make the relation hold or fail. -/
def Blurs (relation : Relation) (a b : Int) : Prop :=
  Exact.nearest a = Exact.nearest b ∧
    match relation with
    | .eq | .ne => a ≠ b
    | .lt | .ge => a < b
    | .gt | .le => b < a

theorem holds_compare (relation : Relation) (a b : Int) :
    relation.holds (some (compare a b)) = relation.between a b := by
  rw [Bool.eq_iff_iff]
  cases relation <;>
    simp only [holds, between, beq_iff_eq, bne_iff_ne, ne_eq, decide_eq_true_eq, Int.compare_eq_lt,
      Int.compare_eq_eq, Int.compare_eq_gt] <;> omega

/-- A filter relates the floating-point numbers nearest to two integers. -/
theorem test_int (relation : Relation) (a b : Int) :
    relation.test (.int a) (.int b) = relation.between (Exact.nearest a) (Exact.nearest b) := by
  rw [← holds_compare, ← Exact.compare?_ofInt]
  rfl

/-- Rounded integers stand in a relation as the integers do, unless rounding loses it. -/
theorem between_nearest_iff (relation : Relation) (a b : Int) :
    relation.between (Exact.nearest a) (Exact.nearest b) = relation.between a b ↔
      ¬relation.Blurs a b := by
  have forward : a ≤ b → Exact.nearest a ≤ Exact.nearest b := Exact.nearest_mono
  have backward : b ≤ a → Exact.nearest b ≤ Exact.nearest a := Exact.nearest_mono
  have alike : a = b → Exact.nearest a = Exact.nearest b := congrArg Exact.nearest
  cases relation <;> simp only [between, Blurs, decide_eq_decide] <;> omega

/-- Integers of up to 53 bits are not rounded. -/
theorem not_blurs_of_small (relation : Relation) {a b : Int} (first : a.natAbs ≤ 2 ^ 53)
    (second : b.natAbs ≤ 2 ^ 53) : ¬relation.Blurs a b := by
  rw [← between_nearest_iff, Exact.nearest_of_small first, Exact.nearest_of_small second]

end Relation

section Reading
variable {key : String} {relation : Relation} {n : Int}
variable (low : -(Int.ofNat (Nat.pow 2 63)) ≤ n) (high : n ≤ Json.Number.maxWhole)
include low high

theorem readLiteral_int : readLiteral (toString n).toList = .ok (.int n) := by
  have readable : Json.Readable Json.maxDepth (.int n) := by
    rw [Json.Readable]
    exact ⟨low, high⟩
  have read : Json.read (toString n) = .ok (.int n) := by
    have whole := Json.read_pretty readable
    simpa only [Json.pretty, Json.indented, Json.sorted] using whole
  obtain ⟨some_, plain⟩ := Decimal.toString_numeral n
  obtain ⟨c, rest, shape⟩ := List.exists_cons_of_ne_nil some_
  have noQuote : c ≠ '\'' :=
    Decimal.ne_of_isNumeral (plain c (shape ▸ List.mem_cons_self)) '\'' (by decide)
  unfold readLiteral
  split
  · rename_i first quoted
    rw [shape] at first
    exact absurd (Option.some.inj first) noQuote
  · rw [String.ofList_toList, read]

theorem isLiteral_int : IsLiteral (toString n).toList (.int n) := by
  obtain ⟨some_, plain⟩ := Decimal.toString_numeral n
  exact
    { read := readLiteral_int low high
      some_ := some_
      trimmed := trimChars_of_visible fun c member => Decimal.visible_of_isNumeral (plain c member)
      passed := splitClosing_inert fun c member => isInert_numeral (plain c member) }

/-- The path of a filter that compares a member with an integer. -/
theorem read_comparison (bare : Bare key) :
    read ("$[?(@." ++ key ++ " " ++ relation.symbol ++ " " ++ toString n ++ ")]") =
      .ok [.child (.filter [.child (.pick (.name key))] (some (relation, .int n)))] :=
  read_comparing (isLiteral_int low high) bare rfl

end Reading

section Keeping
variable {key : String} {relation : Relation} {n : Int} {items : List Json}

/-- Whether a member of a value is an integer of which something is true. -/
def integerAt (key : String) (holds : Int → Bool) (node : Json) : Bool :=
  match node.member? key with
  | some (.int m) => holds m
  | _ => false

variable (whole : ∀ item ∈ items, ∃ m, item.member? key = some (.int m))
include whole

theorem follow_comparison :
    follow [.child (.filter [.child (.pick (.name key))] (some (relation, .int n)))] [.arr items] =
      .ok (items.filter
        (integerAt key fun m => relation.between (Exact.nearest m) (Exact.nearest n))) := by
  rw [follow_comparing, Json.children]
  congr 1
  apply List.filter_congr
  intro item member
  obtain ⟨m, found⟩ := whole item member
  simp only [integerAt, found, Option.any_some, relation.test_int]

/-- Two tests of an integer member keep the same items just when they agree on those members. -/
theorem filter_integerAt_inj {first second : Int → Bool} :
    items.filter (integerAt key first) = items.filter (integerAt key second) ↔
      ∀ item ∈ items, ∀ m, item.member? key = some (.int m) → first m = second m := by
  constructor
  · intro same item member m found
    have both := congrArg (item ∈ ·) same
    simpa [List.mem_filter, member, integerAt, found] using both
  · intro agree
    apply List.filter_congr
    intro item member
    obtain ⟨m, found⟩ := whole item member
    simp [integerAt, found, agree item member m found]

end Keeping

/-- A filter that compares a member with an integer keeps the items whose member is rounded to something
in that relation to the rounded integer. These are the items whose member itself stands in that relation,
unless rounding loses it for one of them, and up to `2 ^ 53` it does not. -/
theorem filter_finds {key : String} {relation : Relation} {n : Int} {items : List Json}
    (bare : Bare key) (low : -(Int.ofNat (Nat.pow 2 63)) ≤ n) (high : n ≤ Json.Number.maxWhole)
    (whole : ∀ item ∈ items, ∃ m, item.member? key = some (.int m)) :
    ∃ path, read ("$[?(@." ++ key ++ " " ++ relation.symbol ++ " " ++ toString n ++ ")]") =
        .ok path ∧
      path.query (.arr items) = .ok (items.filter
        (integerAt key fun m => relation.between (Exact.nearest m) (Exact.nearest n))) ∧
      (path.query (.arr items) = .ok (items.filter (integerAt key fun m => relation.between m n)) ↔
        ∀ item ∈ items, ∀ m, item.member? key = some (.int m) → ¬relation.Blurs m n) ∧
      ∀ m : Int, m.natAbs ≤ 2 ^ 53 → n.natAbs ≤ 2 ^ 53 → ¬relation.Blurs m n := by
  have found := @follow_comparison key relation n items whole
  refine ⟨_, read_comparison low high bare, found, ?_, fun m => relation.not_blurs_of_small⟩
  rw [query, found, Except.ok.injEq, filter_integerAt_inj whole]
  simp only [Relation.between_nearest_iff]

/-- Ids around `2 ^ 53`: the id next to the one that is asked for is found too. -/
theorem filter_finds_neighbours :
    let items : List Json := [.obj [("id", .int (2 ^ 53))], .obj [("id", .int (2 ^ 53 + 1))],
      .obj [("id", .int (2 ^ 53 + 2))]]
    (∀ item ∈ items, ∃ m, item.member? "id" = some (.int m)) ∧ Bare "id" ∧
      ∃ path, read "$[?(@.id <= 9007199254740992)]" = .ok path ∧
        path.query (.arr items) = .ok (items.take 2) ∧
        Relation.Blurs .le (2 ^ 53 + 1) (2 ^ 53) := by
  intro items
  have whole : ∀ item ∈ items, ∃ m, item.member? "id" = some (.int m) := by
    simp only [items, List.forall_mem_cons]
    exact ⟨⟨_, rfl⟩, ⟨_, rfl⟩, ⟨_, rfl⟩, by simp⟩
  have bare : Bare "id" := ⟨by decide, by decide, by decide, List.all_eq_true.mp (by decide)⟩
  obtain ⟨path, readable, found, -⟩ :=
    @filter_finds "id" .le (2 ^ 53) items bare (by decide) (by decide) whole
  refine ⟨whole, bare, path, readable, ?_, ?_⟩
  · rw [found]
    rfl
  · exact ⟨by decide +kernel, by decide⟩

/-- An item is found whose member differs from the integer that it is asked to equal. -/
theorem filter_finds_unequal :
    let item : Json := .obj [("k", .int 9007199254740993)]
    ∃ path, read "$[?(@.k == 9007199254740992)]" = .ok path ∧
      path.query (.arr [item]) = .ok [item] ∧
      [item].filter (integerAt "k" fun m => Relation.between .eq m 9007199254740992) = [] := by
  intro item
  have bare : Bare "k" := ⟨by decide, by decide, by decide, List.all_eq_true.mp (by decide)⟩
  have whole : ∀ node ∈ [item], ∃ m, node.member? "k" = some (.int m) := by
    intro node member
    cases List.mem_singleton.mp member
    exact ⟨_, rfl⟩
  refine ⟨_, @read_comparison "k" .eq 9007199254740992 (by decide) (by decide) bare, ?_, rfl⟩
  rw [query, follow_comparison whole]
  rfl

/-!
### Strings

The literal of a string may hold any sign but the quote around it, also signs that mean
something outside of it. Strings are compared by their bytes, and a member that is no string is merely
different from every string.
-/

namespace Relation

/-- A relation of texts, which are ordered by their bytes. -/
def betweenTexts (relation : Relation) (a b : String) : Bool :=
  match relation with
  | .eq => a = b
  | .ne => a ≠ b
  | .lt => bytesOf a < bytesOf b
  | .le => a = b ∨ bytesOf a < bytesOf b
  | .gt => bytesOf b < bytesOf a
  | .ge => a = b ∨ bytesOf b < bytesOf a

theorem holds_compare_texts (relation : Relation) (a b : String) :
    relation.holds (some (compare a b)) = relation.betweenTexts a b := by
  have order : compare a b = compareOfLessAndEq a b := rfl
  rw [order, Bool.eq_iff_iff]
  rcases lt_trichotomy a b with less | rfl | greater
  · have other : a ≠ b := less.ne
    have apart : ¬b < a := less.asymm
    cases relation <;>
      simp [holds, betweenTexts, compareOfLessAndEq, bytesOf_lt_iff, less, other, apart]
  · cases relation <;> simp [holds, betweenTexts, compareOfLessAndEq, bytesOf_lt_iff]
  · have other : a ≠ b := greater.ne'
    have apart : ¬a < b := greater.asymm
    cases relation <;>
      simp [holds, betweenTexts, compareOfLessAndEq, bytesOf_lt_iff, greater, other, apart]

/-- Whether a value is in a relation to a text: a string by its bytes, and any other value by being
different. -/
def toText (relation : Relation) (text : String) : Json → Bool
  | .str own => relation.betweenTexts own text
  | _ => relation = .ne

theorem test_text (relation : Relation) (value : Json) (text : String) :
    relation.test value (.str text) = relation.toText text value := by
  cases value with
  | str own => exact relation.holds_compare_texts own text
  | _ => cases relation <;> rfl

end Relation

/-- A quoted text is read as a literal, whatever signs are in it. -/
theorem isLiteral_quoted {text : String} (free : '\'' ∉ text.toList) :
    IsLiteral ('\'' :: (text.toList ++ ['\''])) (.str text) where
  read := by
    have quoted : quoted? ('\'' :: (text.toList ++ ['\''])) = some text.toList :=
      quoted?_quoted (by decide) text.toList
    simp [readLiteral, quoted]
  some_ := by simp
  trimmed := trimChars_framed (by decide) (by decide) text.toList
  passed depth rest := by
    have opened := splitClosing_opened free depth rest
    simp [splitClosing, quoteAfter, isQuote, opened, Function.comp_def]

/-- A filter that compares a member with a quoted text keeps, of the children of a list or an object, those
that have the member and whose member is a string in the relation to the text or, if they are to be
different, no string at all. -/
theorem text_filter_finds {key text : String} (relation : Relation) (bare : Bare key)
    (free : '\'' ∉ text.toList) :
    ∃ path, read ("$[?(@." ++ key ++ " " ++ relation.symbol ++ " '" ++ text ++ "')]") = .ok path ∧
      ∀ document, path.query document =
        .ok (document.children.filter fun child => (child.member? key).any (relation.toText text)) := by
  have written : ("'" ++ text ++ "'").toList = '\'' :: (text.toList ++ ['\'']) := by simp
  have readable := @read_comparing key relation _ _ (isLiteral_quoted free) bare _ written
  have same : "$[?(@." ++ key ++ " " ++ relation.symbol ++ " " ++ ("'" ++ text ++ "'") ++ ")]" =
      "$[?(@." ++ key ++ " " ++ relation.symbol ++ " '" ++ text ++ "')]" := by
    rw [← String.toList_inj]
    simp
  refine ⟨_, same ▸ readable, fun document => ?_⟩
  rw [query, follow_comparing]
  simp only [relation.test_text]

/-- A literal full of signs that mean something outside of it. A member that is no string is found if it
is to be different, and a child without the member never is. -/
theorem text_filter_finds_signs :
    let same : Json := .obj [("a b", .str "x)] != \"y, é")]
    let number : Json := .obj [("a b", .int 1)]
    let other : Json := .obj [("a b", .str "x)] != \"y, 鍵")]
    let without : Json := .obj [("c", .null)]
    let document : Json := .arr [same, number, without, .str "a b", other]
    Bare "a b" ∧ '\'' ∉ "x)] != \"y, é".toList ∧
      (∃ path, read "$[?(@.a b != 'x)] != \"y, é')]" = .ok path ∧
        path.query document = .ok [number, other]) ∧
      ∃ path, read "$[?(@.a b > 'x)] != \"y, é')]" = .ok path ∧ path.query document = .ok [other] := by
  intro same number other without document
  have bare : Bare "a b" := ⟨by decide, by decide, by decide, List.all_eq_true.mp (by decide)⟩
  have free : '\'' ∉ "x)] != \"y, é".toList := by decide
  obtain ⟨different, readable, differs⟩ := text_filter_finds .ne bare free
  obtain ⟨later, readableLater, follows⟩ := text_filter_finds .gt bare free
  have characters : Relation.gt.toText "x)] != \"y, é" = fun value =>
      match value with
      | .str own => decide ("x)] != \"y, é" < own)
      | _ => false := by
    funext value
    cases value <;> simp [Relation.toText, Relation.betweenTexts, bytesOf_lt_iff]
  refine ⟨bare, free, ⟨different, readable, ?_⟩, later, readableLater, ?_⟩
  · rw [differs]
    rfl
  · rw [follows, characters]
    rfl

end ApiProbe.JsonPath
