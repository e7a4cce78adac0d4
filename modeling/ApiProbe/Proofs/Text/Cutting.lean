import ApiProbe.Text.Split
import Mathlib.Data.List.Infix
import Mathlib.Data.List.Basic

/-!
Texts cut at separators and at marks.
-/
namespace ApiProbe.Text

/-!
### Separators

Texts put together with a separator between them. If none of them holds the separator, they come apart
again where they were joined.
-/

theorem parts_ne_nil (separator : Char) (chars : List Char) : parts separator chars ≠ [] := by
  cases chars with
  | nil => exact List.cons_ne_nil _ _
  | cons c rest =>
    rw [parts]
    split
    · exact List.cons_ne_nil _ _
    · split <;> exact List.cons_ne_nil _ _

theorem parts_eq_singleton {separator : Char} {segment : List Char} (free : separator ∉ segment) :
    parts separator segment = [segment] := by
  induction segment with
  | nil => rfl
  | cons c tail ih =>
    obtain ⟨different, free⟩ := not_or.mp fun found => free (List.mem_cons.mpr found)
    simp [parts, beq_eq_false_iff_ne.mpr (Ne.symm different), ih free]

/-- Text comes apart at each separator in it. -/
theorem parts_append (separator : Char) (front rest : List Char) :
    parts separator (front ++ separator :: rest) = parts separator front ++ parts separator rest := by
  induction front with
  | nil => simp [parts]
  | cons c tail ih =>
    rw [List.cons_append, parts, parts, ih]
    split
    · rfl
    · obtain ⟨first, more, shape⟩ := List.exists_cons_of_ne_nil (parts_ne_nil separator tail)
      simp [shape]

theorem getLast?_parts {separator : Char} {last : List Char} (free : separator ∉ last)
    (front : List Char) : (parts separator (front ++ separator :: last)).getLast? = some last := by
  rw [parts_append, parts_eq_singleton free, List.getLast?_concat]

/-- Parts that are put together with a separator come apart there. -/
theorem parts_intercalate {separator : Char} {segments : List (List Char)} (some_ : segments ≠ [])
    (free : ∀ segment ∈ segments, separator ∉ segment) :
    parts separator ([separator].intercalate segments) = segments := by
  induction segments with
  | nil => exact absurd rfl some_
  | cons first rest ih =>
    have own := parts_eq_singleton (free first List.mem_cons_self)
    cases rest with
    | nil => rw [List.intercalate_singleton, own]
    | cons second more =>
      rw [List.intercalate_cons_cons, List.append_assoc, List.singleton_append, parts_append, own,
        ih (List.cons_ne_nil second more) fun segment member => free segment (.tail first member),
        List.singleton_append]

theorem mem_intercalate {separator c : Char} {segments : List (List Char)}
    (member : c ∈ [separator].intercalate segments) :
    c = separator ∨ ∃ segment ∈ segments, c ∈ segment := by
  induction segments with
  | nil => cases member
  | cons first rest ih =>
    cases rest with
    | nil =>
      rw [List.intercalate_singleton] at member
      exact .inr ⟨first, List.mem_cons_self, member⟩
    | cons second more =>
      rw [List.intercalate_cons_cons, List.mem_append, List.mem_append, List.mem_singleton] at member
      rcases member with (inside | same) | later
      · exact .inr ⟨first, List.mem_cons_self, inside⟩
      · exact .inl same
      · exact (ih later).imp_right fun ⟨segment, among, inside⟩ => ⟨segment, .tail _ among, inside⟩

/-!
### Lines

A text and its lines. A line ends with a line feed, with or without a carriage return in front of it; the
last one may have no end, and then its carriage return belongs to it.
-/

inductive LinesOf : List Char → List (List Char) → Prop
  | nothing : LinesOf [] []
  | unended {line : List Char} (some_ : line ≠ []) (whole : '\n' ∉ line) : LinesOf line [line]
  | feed {line rest : List Char} {more : List (List Char)} (whole : '\n' ∉ line)
    (bare : line.getLast? ≠ some '\r') (later : LinesOf rest more) :
    LinesOf (line ++ '\n' :: rest) (line :: more)
  | returnFeed {line rest : List Char} {more : List (List Char)} (whole : '\n' ∉ line)
    (later : LinesOf rest more) : LinesOf (line ++ '\r' :: '\n' :: rest) (line :: more)

theorem dropReturn_eq_self {line : List Char} (bare : line.getLast? ≠ some '\r') :
    dropReturn line = line :=
  if_neg (by simpa using bare)

theorem dropReturn_append (line : List Char) : dropReturn (line ++ ['\r']) = line := by
  simp [dropReturn]

/-- The first line feed ends the first line. -/
theorem lines_append {line : List Char} (whole : '\n' ∉ line) (rest : List Char) :
    lines (line ++ '\n' :: rest) = dropReturn line :: lines rest := by
  obtain ⟨first, others, shape⟩ := List.exists_cons_of_ne_nil (parts_ne_nil '\n' rest)
  simp [lines, parts_append, parts_eq_singleton whole, shape]

theorem lines_of_not_mem {line : List Char} (some_ : line ≠ []) (whole : '\n' ∉ line) :
    lines line = [line] := by
  simp [lines, parts_eq_singleton whole, some_]

/-- No text has other lines than those that it is cut into. -/
theorem LinesOf.eq_lines {chars : List Char} {all : List (List Char)} (cut : LinesOf chars all) :
    all = lines chars := by
  induction cut with
  | nothing => rfl
  | unended some_ whole => rw [lines_of_not_mem some_ whole]
  | feed whole bare _ ih => rw [lines_append whole, dropReturn_eq_self bare, ih]
  | @returnFeed line rest _ whole _ ih =>
    have inside : '\n' ∉ line ++ ['\r'] := by simp [whole]
    have first := lines_append inside rest
    rw [List.append_assoc, List.singleton_append] at first
    rw [first, dropReturn_append, ih]

/-- Every text has lines. -/
theorem linesOf_lines (chars : List Char) : LinesOf chars (lines chars) := by
  by_cases ended : '\n' ∈ chars
  case neg =>
    by_cases some_ : chars = []
    · rw [some_]
      exact .nothing
    · rw [lines_of_not_mem some_ ended]
      exact .unended some_ ended
  case pos =>
    obtain ⟨line, rest, split, whole⟩ := List.eq_append_cons_of_mem ended
    have shorter : rest.length < chars.length := by simp [split]; omega
    have later := linesOf_lines rest
    rw [split, lines_append whole]
    by_cases returned : line.getLast? = some '\r'
    · obtain ⟨bare, rfl⟩ := List.getLast?_eq_some_iff.mp returned
      rw [dropReturn_append, List.append_assoc, List.singleton_append]
      exact .returnFeed (fun member => whole (List.mem_append_left _ member)) later
    · rw [dropReturn_eq_self returned]
      exact .feed whole returned later
termination_by chars.length

/-!
### Marks

A text up to a mark. Where a mark is met for the first time is settled by what stands in front of it,
so a text that has been cut off at a mark is cut off there whatever follows.
-/
variable {mark inner front chars rest : List Char}

/-- A mark behind a text is met there and not before. -/
def EndsAt (mark inner : List Char) : Prop := cutAt? mark (inner ++ mark) = some (inner, [])

instance (mark inner : List Char) : Decidable (EndsAt mark inner) :=
  inferInstanceAs (Decidable (_ = _))

/-- A mark that is no longer than a text starts what begins with the text if it starts the text. -/
theorem isPrefixOf_append (short : mark.length ≤ front.length) (rest : List Char) :
    mark.isPrefixOf (front ++ rest) = mark.isPrefixOf front := by
  rw [Bool.eq_iff_iff, List.isPrefixOf_iff_prefix, List.isPrefixOf_iff_prefix]
  exact ⟨fun begins => List.prefix_of_prefix_length_le begins (List.prefix_append front rest) short,
    fun begins => begins.trans (List.prefix_append front rest)⟩

/-- Whether a mark is met behind a text does not depend on what follows it. -/
theorem cutAt?_append_iff (some_ : mark ≠ []) (rest : List Char) :
    cutAt? mark (inner ++ (mark ++ rest)) = some (inner, rest) ↔ EndsAt mark inner := by
  rw [EndsAt]
  induction inner with
  | nil =>
    obtain ⟨c, tail, rfl⟩ := List.exists_cons_of_ne_nil some_
    have here (rest : List Char) : (c :: tail).isPrefixOf (c :: (tail ++ rest)) = true :=
      List.isPrefixOf_iff_prefix.mpr (List.prefix_append (c :: tail) rest)
    have alone := here []
    rw [List.append_nil] at alone
    simp [cutAt?, here rest, alone]
  | cons c inner ih =>
    have short : mark.length ≤ (c :: (inner ++ mark)).length := by simp; omega
    have same := isPrefixOf_append short rest
    rw [List.cons_append, List.append_assoc] at same
    simp only [List.cons_append, cutAt?, same]
    split
    · simp
    · have step (found : Option (List Char × List Char)) (after : List Char) :
          found.map (fun parts => (c :: parts.1, parts.2)) = some (c :: inner, after) ↔
            found = some (inner, after) := by
        cases found <;> simp [Prod.ext_iff]
      rw [step, step, ih]

theorem endsAt_cons {c : Char} (differs : ¬mark <+: c :: (inner ++ mark)) (ends : EndsAt mark inner) :
    EndsAt mark (c :: inner) := by
  rw [EndsAt] at ends ⊢
  rw [List.cons_append, cutAt?, if_neg (by rwa [List.isPrefixOf_iff_prefix]), ends]
  rfl

/-- A text that is cut at a mark ends at the mark. -/
theorem endsAt_of_cutAt? (some_ : mark ≠ []) (found : cutAt? mark chars = some (inner, rest)) :
    EndsAt mark inner ∧ chars = inner ++ (mark ++ rest) := by
  have split := cutAt?_eq found
  rw [List.append_assoc] at split
  rw [split] at found
  exact ⟨(cutAt?_append_iff some_ rest).mp found, split⟩

/-- A mark of one character is met where the character stands first. -/
theorem endsAt_singleton_iff {c : Char} : EndsAt [c] inner ↔ c ∉ inner := by
  constructor
  · intro ends member
    rw [EndsAt] at ends
    induction inner with
    | nil => cases member
    | cons d inner ih =>
      simp only [List.cons_append, cutAt?] at ends
      split at ends
      · simp at ends
      · rename_i different
        obtain ⟨⟨before, after⟩, found, same⟩ := Option.map_eq_some_iff.mp ends
        cases same
        rcases List.mem_cons.mp member with rfl | later
        · simp at different
        · exact ih found later
  · intro free
    exact cutAt?_of_not_mem free []

theorem cutAt?_eq_none {c : Char} (free : c ∉ chars) : cutAt? [c] chars = none := by
  refine Option.eq_none_iff_forall_ne_some.mpr fun (before, after) found => free ?_
  rw [cutAt?_eq found]
  simp

end ApiProbe.Text
