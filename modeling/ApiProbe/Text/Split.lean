/-!
Cutting character lists: at every separator, at the first occurrence of a mark, and into lines.
-/
namespace ApiProbe.Text

/-- The parts between separators; there is always at least one. -/
def parts (separator : Char) : List Char → List (List Char)
  | [] => [[]]
  | c :: rest =>
    if c == separator then [] :: parts separator rest
    else
      match parts separator rest with
      | part :: more => (c :: part) :: more
      | [] => [[c]]

/-- What stands before the first occurrence of a mark, and what stands behind it. -/
def cutAt? (mark : List Char) : List Char → Option (List Char × List Char)
  | [] => if mark.isEmpty then some ([], []) else none
  | c :: rest =>
    if mark.isPrefixOf (c :: rest) then some ([], (c :: rest).drop mark.length)
    else (cutAt? mark rest).map fun (before, after) => (c :: before, after)

theorem cutAt?_eq {mark chars before after : List Char}
    (found : cutAt? mark chars = some (before, after)) : chars = before ++ mark ++ after := by
  induction chars generalizing before after with
  | nil =>
    simp only [cutAt?] at found
    split at found
    · rename_i blank
      cases found
      simp [List.isEmpty_iff.mp blank]
    · cases found
  | cons c rest ih =>
    simp only [cutAt?] at found
    split at found
    · rename_i here
      cases found
      obtain ⟨tail, same⟩ := List.isPrefixOf_iff_prefix.mp here
      rw [← same]
      simp
    · obtain ⟨⟨front, back⟩, inside, same⟩ := Option.map_eq_some_iff.mp found
      cases same
      rw [ih inside]
      simp

theorem cutAt?_length {mark chars before after : List Char}
    (found : cutAt? mark chars = some (before, after)) :
    chars.length = before.length + mark.length + after.length := by
  rw [cutAt?_eq found, List.length_append, List.length_append]

/-- A mark of one character is found where the character stands first. -/
theorem cutAt?_of_not_mem {c : Char} {before : List Char} (free : c ∉ before) (after : List Char) :
    cutAt? [c] (before ++ c :: after) = some (before, after) := by
  induction before with
  | nil => simp [cutAt?]
  | cons d rest ih =>
    obtain ⟨different, free⟩ := not_or.mp (fun found => free (List.mem_cons.mpr found))
    simp [cutAt?, different, ih free]

/-- Drops one carriage return at the end. -/
def dropReturn (line : List Char) : List Char :=
  if line.getLast? == some '\r' then line.dropLast else line

/-- The lines of a text without their ends, which are line feeds with or without a carriage return.
A line end at the very end starts no further line. -/
def lines (chars : List Char) : List (List Char) :=
  let all := parts '\n' chars
  let last := (all.getLast?).getD []
  all.dropLast.map dropReturn ++ (if last.isEmpty then [] else [last])

end ApiProbe.Text
