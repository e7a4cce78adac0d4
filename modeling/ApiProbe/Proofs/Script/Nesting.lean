import ApiProbe.Proofs.Script.Lookahead

/-!
Brackets in scripts. They are nested if every closing bracket stands against an opening one of its
own shape; a stack of the shapes that are open decides that. Counting how many are open decides less:
whether they would be nested if all had one shape.
-/
namespace ApiProbe.Script

inductive Bracket
  | round | square | curly
  deriving Repr, DecidableEq

/-- A bracket in a text. -/
inductive Mark
  | opens (shape : Bracket)
  | closes (shape : Bracket)
  deriving Repr, DecidableEq

namespace Mark

/-- The bracket without its shape. -/
def blurred : Mark → Mark
  | opens _ => opens .round
  | closes _ => closes .round

end Mark

/-- The bracket that a sign is. -/
def signMark? (text : String) : Option Mark :=
  match text with
  | "(" => some (.opens .round)
  | "[" => some (.opens .square)
  | "\x7b" => some (.opens .curly)
  | ")" => some (.closes .round)
  | "]" => some (.closes .square)
  | "\x7d" => some (.closes .curly)
  | _ => none

def Token.mark? (token : Token) : Option Mark := token.sign?.bind signMark?

/-- The brackets among tokens. -/
def marks (tokens : List Token) : List Mark := tokens.filterMap Token.mark?

/-- Every closing bracket stands against an opening one of its shape. -/
inductive Nested : List Mark → Prop
  | nil : Nested []
  | enclosed (shape : Bracket) {inner rest : List Mark} (inside : Nested inner)
    (behind : Nested rest) : Nested (.opens shape :: (inner ++ .closes shape :: rest))

/-- Brackets that would be nested if all of them had one shape. -/
def Balanced (brackets : List Mark) : Prop := Nested (brackets.map Mark.blurred)

/-- The brackets that are open behind others, innermost first. -/
def scan : List Bracket → List Mark → Option (List Bracket)
  | held, [] => some held
  | held, .opens shape :: rest => scan (shape :: held) rest
  | [], .closes _ :: _ => none
  | top :: held, .closes shape :: rest => if top = shape then scan held rest else none

section Scan
variable {held left : List Bracket} {first second rest brackets : List Mark}

@[simp] theorem scan_nil (held : List Bracket) : scan held [] = some held := by
  cases held <;> rfl

@[simp] theorem scan_opens (held : List Bracket) (shape : Bracket) (rest : List Mark) :
    scan held (.opens shape :: rest) = scan (shape :: held) rest := by
  cases held <;> rfl

@[simp] theorem scan_closes (held : List Bracket) (shape : Bracket) (rest : List Mark) :
    scan (shape :: held) (.closes shape :: rest) = scan held rest :=
  if_pos rfl

theorem scan_closes_eq_some {shape : Bracket} (done : scan held (.closes shape :: rest) = some left) :
    ∃ below, held = shape :: below ∧ scan below rest = some left := by
  cases held with
  | nil => cases done
  | cons top below =>
    rw [scan] at done
    split at done
    · rename_i same
      exact ⟨below, by rw [same], done⟩
    · cases done

theorem scan_append (held : List Bracket) (first second : List Mark) :
    scan held (first ++ second) = (scan held first).bind fun left => scan left second := by
  fun_induction scan held first with
  | case1 => rfl
  | case2 held shape rest ih => rw [List.cons_append, scan_opens, ih]
  | case3 => rfl
  | case4 held shape rest ih => rw [List.cons_append, scan_closes, ih]
  | case5 top held shape rest apart =>
    rw [List.cons_append, scan, if_neg apart]
    rfl

theorem scan_append_of_eq {shapes : List Bracket} (done : scan held first = some shapes) :
    scan held (first ++ second) = scan shapes second := by
  rw [scan_append, done]
  rfl

/-- Nested brackets leave open what was open. -/
theorem Nested.scan (nested : Nested brackets) (held : List Bracket) :
    Script.scan held brackets = some held := by
  induction nested generalizing held with
  | nil => exact scan_nil held
  | enclosed shape _ _ inside behind =>
    rw [scan_opens, scan_append_of_eq (inside (shape :: held)), scan_closes, behind]

/-- Brackets that close what is open. -/
inductive Closing : List Bracket → List Mark → Prop
  | done {brackets : List Mark} (nested : Nested brackets) : Closing [] brackets
  | next {top : Bracket} {below : List Bracket} {inner rest : List Mark} (inside : Nested inner)
    (behind : Closing below rest) : Closing (top :: below) (inner ++ .closes top :: rest)

theorem closing_of_scan (done : scan held brackets = some []) : Closing held brackets := by
  induction brackets generalizing held with
  | nil =>
    rw [scan_nil] at done
    obtain rfl := Option.some.inj done
    exact .done .nil
  | cons bracket rest ih =>
    cases bracket with
    | opens shape =>
      rw [scan_opens] at done
      cases ih done with
      | @next _ _ inner behind inside later =>
        cases later with
        | done nested => exact .done (.enclosed shape inside nested)
        | @next top below more last inside' later' =>
          have whole : .opens shape :: (inner ++ .closes shape :: (more ++ .closes top :: last))
              = (.opens shape :: (inner ++ .closes shape :: more)) ++ .closes top :: last := by simp
          rw [whole]
          exact .next (.enclosed shape inside inside') later'
    | closes shape =>
      obtain ⟨below, rfl, behind⟩ := scan_closes_eq_some done
      exact .next .nil (ih behind)

/-- The stack decides whether brackets are nested. -/
theorem nested_iff_scan : Nested brackets ↔ scan [] brackets = some [] := by
  refine ⟨fun nested => nested.scan [], fun done => ?_⟩
  cases closing_of_scan done with
  | done nested => exact nested

instance (brackets : List Mark) : Decidable (Nested brackets) :=
  decidable_of_iff _ nested_iff_scan.symm

instance (brackets : List Mark) : Decidable (Balanced brackets) :=
  inferInstanceAs (Decidable (Nested _))

/-- Brackets of different shapes stand against each other, as many as there should be. -/
example : Balanced [.opens .round, .closes .square] ∧ ¬Nested [.opens .round, .closes .square] := by
  decide

/-- Brackets that are open, without their shapes. -/
def blur (held : List Bracket) : List Bracket := held.map fun _ => .round

/-- What can be scanned can be scanned without shapes. -/
theorem scan_blurred (done : scan held brackets = some left) :
    scan (blur held) (brackets.map Mark.blurred) = some (blur left) := by
  fun_induction scan held brackets with
  | case1 => simpa using congrArg blur (Option.some.inj done)
  | case2 held shape rest ih => exact (scan_opens ..).trans (ih done)
  | case3 => cases done
  | case4 held shape rest ih => exact (scan_closes ..).trans (ih done)
  | case5 => cases done

private theorem eq_opens {bracket : Mark} {shape : Bracket} (same : bracket.blurred = .opens shape) :
    ∃ own, bracket = .opens own := by
  cases bracket with
  | opens own => exact ⟨own, rfl⟩
  | closes own => cases same

private theorem eq_closes {bracket : Mark} {shape : Bracket} (same : bracket.blurred = .closes shape) :
    ∃ own, bracket = .closes own := by
  cases bracket with
  | opens own => cases same
  | closes own => exact ⟨own, rfl⟩

/-- Of balanced brackets only nested ones can be scanned. -/
theorem Balanced.of_scan (balanced : Balanced brackets) (done : scan held brackets = some left) :
    left = held ∧ Nested brackets := by
  unfold Balanced at balanced
  generalize blurred : brackets.map Mark.blurred = others at balanced
  induction balanced generalizing brackets held left with
  | nil =>
    obtain rfl := List.map_eq_nil_iff.mp blurred
    rw [scan_nil] at done
    exact ⟨(Option.some.inj done).symm, .nil⟩
  | enclosed shape _ _ ihInside ihBehind =>
    obtain ⟨opening, tail, rfl, opens, parts⟩ := List.map_eq_cons_iff.mp blurred
    obtain ⟨inner, more, rfl, inside, parts⟩ := List.map_eq_append_iff.mp parts
    obtain ⟨closing, rest, rfl, closes, behind⟩ := List.map_eq_cons_iff.mp parts
    obtain ⟨own, rfl⟩ := eq_opens opens
    obtain ⟨other, rfl⟩ := eq_closes closes
    rw [scan_opens, scan_append, Option.bind_eq_some_iff] at done
    obtain ⟨middle, entered, done⟩ := done
    obtain ⟨rfl, nestedInside⟩ := ihInside entered inside
    obtain ⟨below, same, done⟩ := scan_closes_eq_some done
    cases same
    obtain ⟨rfl, nestedBehind⟩ := ihBehind done behind
    exact ⟨rfl, .enclosed own nestedInside nestedBehind⟩

end Scan

section Tokens
open Lowering
variable {token : Token} {tokens : List Token}

theorem marks_append (first second : List Token) :
    marks (first ++ second) = marks first ++ marks second :=
  List.filterMap_append ..

theorem marks_cons_of_none (none_ : token.mark? = none) (rest : List Token) :
    marks (token :: rest) = marks rest :=
  List.filterMap_cons_none none_

theorem marks_cons_of_some {bracket : Mark} (some_ : token.mark? = some bracket)
    (rest : List Token) : marks (token :: rest) = bracket :: marks rest :=
  List.filterMap_cons_some some_

theorem mark?_of_isSign {text : String} (is : token.isSign text = true) :
    token.mark? = signMark? text := by
  rw [Token.mark?, Token.sign?, Token.kind_of_isSign is]
  rfl

theorem mark?_of_isOpening (opening : isOpening token = true) :
    ∃ shape, token.mark? = some (.opens shape) := by
  simp only [isOpening, Bool.or_eq_true] at opening
  rcases opening with (is | is) | is
  · exact ⟨.round, mark?_of_isSign is⟩
  · exact ⟨.square, mark?_of_isSign is⟩
  · exact ⟨.curly, mark?_of_isSign is⟩

theorem mark?_of_isClosing (closing : isClosing token = true) :
    ∃ shape, token.mark? = some (.closes shape) := by
  simp only [isClosing, Bool.or_eq_true] at closing
  rcases closing with (is | is) | is
  · exact ⟨.round, mark?_of_isSign is⟩
  · exact ⟨.square, mark?_of_isSign is⟩
  · exact ⟨.curly, mark?_of_isSign is⟩

theorem mark?_eq_none (opening : isOpening token = false) (closing : isClosing token = false) :
    token.mark? = none := by
  unfold Token.mark? Token.sign?
  split
  · rename_i text kind
    have is : token.isSign text = true := beq_iff_eq.mpr kind
    change signMark? text = none
    unfold signMark?
    split
    case h_7 => rfl
    case h_1 | h_2 | h_3 => simp [isOpening, is] at opening
    case h_4 | h_5 | h_6 => simp [isClosing, is] at closing
  · rfl

theorem Lowering.Clear.marks (clear : Clear tokens) : Script.marks tokens = [] := by
  rw [Script.marks, List.filterMap_eq_nil_iff]
  exact fun token member => mark?_eq_none (clear token member).2.1 (clear token member).2.2

/-- What stands up to the bracket that closes some open ones closes them, shapes aside. -/
theorem splitClosing?_scan {depth : Nat} {inner after : List Token} {last : Token}
    (is : splitClosing? (depth + 1) tokens = some (inner, last, after)) :
    scan (List.replicate (depth + 1) .round) ((marks (inner ++ [last])).map Mark.blurred)
      = some [] := by
  induction tokens generalizing depth inner with
  | nil => cases is
  | cons token rest ih =>
    simp only [splitClosing?] at is
    split at is
    · rename_i opening
      obtain ⟨⟨before, close, behind⟩, inside, same⟩ := Option.map_eq_some_iff.mp is
      cases same
      obtain ⟨shape, mark⟩ := mark?_of_isOpening opening
      rw [List.cons_append, marks_cons_of_some mark]
      exact (scan_opens ..).trans (ih inside)
    rename_i noOpening
    split at is
    · rename_i closing
      obtain ⟨shape, mark⟩ := mark?_of_isClosing closing
      split at is
      · rename_i single
        obtain rfl : depth = 0 := by omega
        cases is
        rw [List.nil_append, marks_cons_of_some mark]
        rfl
      · rename_i several
        obtain ⟨depth, rfl⟩ := Nat.exists_eq_add_one.mpr (show 0 < depth by omega)
        obtain ⟨⟨before, close, behind⟩, inside, same⟩ := Option.map_eq_some_iff.mp is
        cases same
        rw [List.cons_append, marks_cons_of_some mark]
        exact (scan_closes ..).trans (ih inside)
    · rename_i noClosing
      obtain ⟨⟨before, close, behind⟩, inside, same⟩ := Option.map_eq_some_iff.mp is
      cases same
      rw [List.cons_append, marks_cons_of_none (mark?_eq_none (Bool.eq_false_iff.mpr noOpening)
        (Bool.eq_false_iff.mpr noClosing))]
      exact ih inside

/-- An opening bracket and what stands up to the bracket that closes it are balanced. -/
theorem balanced_of_splitClosing? {inner after : List Token} {last : Token}
    (opening : isOpening token = true)
    (is : splitClosing? 1 tokens = some (inner, last, after)) :
    Balanced (marks (token :: (inner ++ [last]))) := by
  obtain ⟨shape, mark⟩ := mark?_of_isOpening opening
  rw [Balanced, nested_iff_scan, marks_cons_of_some mark]
  exact (scan_opens ..).trans (splitClosing?_scan is)

end Tokens
end ApiProbe.Script
