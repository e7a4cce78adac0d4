import ApiProbe.Text.Split

/-!
Searching and cutting texts. Places are counted in characters, and occurrences are taken from the
left and do not overlap. The empty mark occurs at every place, the end included.
-/
namespace ApiProbe.Text

/-- Place of the first occurrence of a mark. -/
def indexOf? (mark text : List Char) : Option Nat :=
  (cutAt? mark text).map fun (before, _) => before.length

/-- The characters between two bounds, given in either order. Bounds below zero count as zero. -/
def substring (text : List Char) (a b : Int) : List Char :=
  let first := (min a b).toNat
  (text.drop first).take ((max a b).toNat - first)

/-- The parts between the first occurrences of a mark, as many as allowed. -/
def cutTimes (mark : List Char) : Nat → List Char → List (List Char)
  | 0, text => [text]
  | times + 1, text =>
    match cutAt? mark text with
    | some (before, after) => before :: cutTimes mark times after
    | none => [text]

/-- The parts between all occurrences of a mark. -/
def cutAll (mark text : List Char) : List (List Char) :=
  if mark.isEmpty then [] :: text.map (fun c => [c]) ++ [[]] else cutTimes mark text.length text

/-- The parts between the first occurrences of a mark, with the rest of the text as the last part. -/
def cutSome (mark : List Char) (times : Nat) (text : List Char) : List (List Char) :=
  let all := cutAll mark text
  all.take times
    ++ if times < all.length then [mark.intercalate (all.drop times)] else []

/-- Like `cutSome`, from the right: the last part comes first. -/
def cutSomeRight (mark : List Char) (times : Nat) (text : List Char) : List (List Char) :=
  (cutSome mark.reverse times text.reverse).map List.reverse

/-- The parts between all occurrences of a mark, taken from the right; the last part comes first. -/
def cutAllRight (mark text : List Char) : List (List Char) :=
  (cutAll mark.reverse text.reverse).map List.reverse

/-- Puts a text in place of the first occurrence of a mark. -/
def replaceFirst (mark with_ text : List Char) : List Char :=
  match cutAt? mark text with
  | some (before, after) => before ++ with_ ++ after
  | none => text

/-- Puts a text in place of every occurrence of a mark. -/
def replaceAll (mark with_ text : List Char) : List Char := with_.intercalate (cutAll mark text)

/-- The words of a text, which are separated by blanks. -/
def words (isBlank : Char → Bool) (text : List Char) : List (List Char) :=
  (text.splitOnP isBlank).filter fun word => !word.isEmpty

end ApiProbe.Text
