import ApiProbe.Regex.Matching

/-!
Replacing matches. A replacement may refer to the match and to its groups: it is first turned into a
template in which every reference stands in braces and every other dollar sign is doubled, and the
template is then expanded for each match.
-/
namespace ApiProbe.Regex

/-- Puts references into braces and doubles the dollar signs that stand for themselves. -/
def template : List Char → List Char
  | '$' :: '$' :: rest => ['$', '$'] ++ template rest
  | '$' :: '&' :: rest => "$\x7b0\x7d".toList ++ template rest
  | '$' :: c :: rest =>
    if c.isDigit then
      let digits := c :: rest.takeWhile Char.isDigit
      ['$', '{'] ++ digits ++ ['}'] ++ template (rest.dropWhile Char.isDigit)
    else ['$', '$'] ++ template (c :: rest)
  | ['$'] => ['$', '$']
  | c :: rest => c :: template rest
  | [] => []
termination_by chars => chars.length
decreasing_by
  all_goals simp only [List.length_cons]
  · omega
  · omega
  · have := (List.dropWhile_sublist (l := rest) Char.isDigit).length_le
    omega
  all_goals omega

/-- The group that a number stands for, if the number is one. -/
def groupNumber? (digits : List Char) : Option Nat :=
  if digits.isEmpty || !digits.all Char.isDigit then none else some (Decimal.ofDigits 0 digits)

/-- Expands a template. Groups that do not exist or did not take part are empty. -/
def expand (group : Nat → List Char) : List Char → List Char
  | '$' :: '$' :: rest => '$' :: expand group rest
  | '$' :: '{' :: rest =>
    match groupNumber? (rest.takeWhile (· != '}')) with
    | some number => group number ++ expand group ((rest.dropWhile (· != '}')).drop 1)
    | none => expand group ((rest.dropWhile (· != '}')).drop 1)
  | c :: rest => c :: expand group rest
  | [] => []
termination_by chars => chars.length
decreasing_by
  all_goals simp only [List.length_cons, List.length_drop]
  · omega
  · have := (List.dropWhile_sublist (l := rest) (· != '}')).length_le
    omega
  · have := (List.dropWhile_sublist (l := rest) (· != '}')).length_le
    omega
  all_goals omega

/-- The text of a group, empty if it has none. -/
def Captures.group (captures : Captures) (text : List Char) (number : Nat) : List Char :=
  ((captures[number]?.bind id).map (between text)).getD []

/-- Puts the expansions of a template in place of matches, which come from left to right. -/
def putInPlace (template text : List Char) (start : Nat) : List Captures → List Char
  | [] => text.drop start
  | found :: rest =>
    between text (start, found.whole.1) ++ expand (found.group text) template
      ++ putInPlace template text found.whole.2 rest

/-- Replaces the first match, or all of them. -/
def replace (regex : Regex) (text replacement : String) (everywhere : Bool) : String :=
  let chars := text.toList
  let found := if everywhere then regex.all chars else (regex.captures? chars).toList
  String.ofList (putInPlace (template replacement.toList) chars 0 found)

end ApiProbe.Regex
