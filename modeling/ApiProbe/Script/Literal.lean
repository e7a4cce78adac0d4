import ApiProbe.Script.Token

/-!
Literals of the plain script language. Strings stand in double quotes, templates in back ticks; a
template holds expressions in braces behind a dollar sign, and in it a backslash means nothing.
-/
namespace ApiProbe.Script.Literal

/-- Turns the body of a string into one that may stand in double quotes. Escapes of the single
quote, the slash and the dollar sign are dropped; all others stay. -/
def requote : List Char → List Char
  | [] => []
  | '\\' :: [] => ['\\', '\\']
  | '\\' :: c :: rest =>
    if c == '\'' || c == '/' || c == '$' then c :: requote rest else '\\' :: c :: requote rest
  | c :: rest => if c == '"' then '\\' :: '"' :: requote rest else c :: requote rest

/-- A string literal with the body of a quoted string. -/
def quote (body : List Char) : List Char := ['"'] ++ requote body ++ ['"']

/-- The pattern of a regular expression inside double quotes. Escapes of the slash are dropped. -/
def patternBody : List Char → List Char
  | [] => []
  | '\\' :: '/' :: rest => '/' :: patternBody rest
  | c :: rest =>
    if c == '\\' then '\\' :: '\\' :: patternBody rest
    else if c == '"' then '\\' :: '"' :: patternBody rest
    else c :: patternBody rest

/-- Flags that a pattern can carry itself. -/
def isPatternFlag (c : Char) : Bool := c == 'i' || c == 'm' || c == 's'

def patternPrefix (flags : List Char) : List Char :=
  let kept := flags.filter isPatternFlag
  if kept.isEmpty then [] else ['(', '?'] ++ kept ++ [')']

/-- A string literal with a regular expression. -/
def regex (pattern flags : List Char) : List Char :=
  ['"'] ++ patternPrefix flags ++ patternBody pattern ++ ['"']

def isPathStart (c : Char) : Bool := Text.isAlphabetic c || c == '_'

/-- True of strings in which a dollar sign stands before a brace or a name. -/
def interpolates : List Char → Bool
  | '$' :: c :: rest => c == '{' || isPathStart c || interpolates (c :: rest)
  | _ :: rest => interpolates rest
  | [] => false

/-- The end of a path of names joined by points. -/
def pathRest : List Char → List Char × List Char
  | [] => ([], [])
  | c :: rest =>
    let inPath := Text.isAlphanumeric c || c == '_'
      || (c == '.' && (rest.head?.map Text.isAlphabetic).getD false)
    if inPath then
      let (path, after) := pathRest rest
      (c :: path, after)
    else ([], c :: rest)

theorem pathRest_length (chars : List Char) : (pathRest chars).2.length ≤ chars.length := by
  induction chars with
  | nil => simp [pathRest]
  | cons c rest ih =>
    simp only [pathRest]
    split
    · simp only [List.length_cons]; omega
    · simp

/-- The body of a template for a string with dollar signs. -/
def interpolated : List Char → List Char
  | [] => []
  | c :: rest =>
    if c == '\\' then
      match rest with
      | [] => ['\\']
      | 'n' :: more => '\n' :: interpolated more
      | 't' :: more => '\t' :: interpolated more
      | other :: more => other :: interpolated more
    else if c.toNat == 96 then '\\' :: Char.ofNat 96 :: interpolated rest
    else if c == '$' && (rest.head?.map isPathStart).getD false then
      ['$', '{'] ++ (pathRest rest).1 ++ '}' :: interpolated (pathRest rest).2
    else c :: interpolated rest
termination_by chars => chars.length
decreasing_by
  all_goals simp only [List.length_cons]
  all_goals first | omega | skip
  have := pathRest_length rest
  omega

def template (body : List Char) : List Char := Char.ofNat 96 :: body ++ [Char.ofNat 96]

/-- A literal for a string in which dollar signs may stand for expressions. -/
def withDollars (body : List Char) : List Char :=
  if interpolates body then template (interpolated body) else quote body

end ApiProbe.Script.Literal
