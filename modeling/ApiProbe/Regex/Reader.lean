import ApiProbe.Regex.Basic
import ApiProbe.Decimal.Reading

/-!
Reading patterns. The reader walks over the pattern with the flags that are on, the number of the
next group and the names of groups; it gives up at the first thing that no pattern may contain.
-/
namespace ApiProbe.Regex

structure Flags where
  caseless : Bool
  multiline : Bool
  dotAll : Bool
  lazyFirst : Bool
  unicode : Bool
  spaced : Bool
  pairs : Bool
  deriving Repr, DecidableEq

def Flags.initial : Flags := ⟨false, false, false, false, true, false, false⟩

structure ReaderState where
  rest : List Char
  flags : Flags
  nextGroup : Nat
  names : List (List Char)

abbrev Reader := StateT ReaderState Option

namespace Reader

def giveUp {α : Type} : Reader α := fun _ => none

def peek : Reader (Option Char) := fun state => some (state.rest.head?, state)

def skip (count : Nat) : Reader Unit :=
  modify fun state => { state with rest := state.rest.drop count }

def flags : Reader Flags := fun state => some (state.flags, state)

def setFlags (flags : Flags) : Reader Unit := modify fun state => { state with flags }

/-- Whether the pattern goes on with a text. -/
def sees (text : List Char) : Reader Bool := fun state =>
  some (text.isPrefixOf state.rest, state)

/-- Takes a text if the pattern goes on with it. -/
def takes (text : List Char) : Reader Bool := do
  let here ← sees text
  if here then skip text.length
  pure here

/-- Drops blanks and comments; a comment runs from a number sign to the end of its line. -/
def dropIgnored (comment : Bool) : List Char → List Char
  | [] => []
  | c :: rest =>
    if comment then dropIgnored (c != '\n') rest
    else if Text.isBlank c then dropIgnored false rest
    else if c == '#' then dropIgnored true rest
    else c :: rest

/-- Skips what spaced patterns ignore. -/
def skipSpace : Reader Unit := modify fun state =>
  if state.flags.spaced then { state with rest := dropIgnored false state.rest } else state

/-- Takes the next character and gives the one after it. -/
def step : Reader (Option Char) := do
  skip 1
  skipSpace
  peek

/-- The next character, which must be there. -/
def need : Reader Char := do
  match ← peek with
  | some c => pure c
  | none => giveUp

/-- Takes characters as long as they pass a test. -/
def takeWhile (test : Char → Bool) : Reader (List Char) := fun state =>
  let taken := state.rest.takeWhile test
  some (taken, { state with rest := state.rest.drop taken.length })

/-- A decimal number of 32 bits with blanks around it. -/
def decimal : Reader Nat := do
  let _ ← takeWhile Text.isBlank
  let digits ← takeWhile Char.isDigit
  let _ ← takeWhile Text.isBlank
  if digits.isEmpty then giveUp
  let n := Decimal.ofDigits 0 digits
  if n < 4294967296 then pure n else giveUp

end Reader

open Reader

/-- What a backslash introduces. -/
inductive Escape
  | char (c : Char)
  | set (set : CharSet)
  | look (look : Look)

def hexValue? (c : Char) : Option Nat :=
  if c.isDigit then some (c.toNat - 48)
  else if 'a' ≤ c.toLower && c.toLower ≤ 'f' then some (c.toLower.toNat - 87)
  else none

def hexNumber? (digits : List Char) : Option Nat :=
  if digits.isEmpty then none
  else digits.foldl (fun total c => do some ((← total) * 16 + (← hexValue? c))) (some 0)

def charOf? (digits : List Char) : Option Char := do
  let code ← hexNumber? digits
  if code.isValidChar then some (Char.ofNat code) else none

/-- A fixed number of hexadecimal digits; the reader stands before the first. -/
def readDigits : Nat → Reader (List Char)
  | 0 => pure []
  | n + 1 => do
    let c ← need
    skip 1
    if n > 0 then skipSpace
    pure (c :: (← readDigits n))

/-- A character by its code; the reader stands on the letter that says how many digits follow. -/
def readHex (digits : Nat) : Reader Char := do
  let next ← step
  if next == some '{' then
    let _ ← step
    let text ← takeWhile (· != '}')
    if !(← takes ['}']) then giveUp
    let spaced := (← flags).spaced
    match charOf? (if spaced then text.filter fun c => !Text.isBlank c else text) with
    | some c => pure c
    | none => giveUp
  else
    match charOf? (← readDigits digits) with
    | some c =>
      if digits == 2 && c.toNat > 127 && !(← flags).unicode then giveUp else pure c
    | none => giveUp

/-- Names are compared in small letters, without separators and a leading `is`. -/
def plainName (name : List Char) : String :=
  let body :=
    match name with
    | i :: s :: rest => if i.toLower == 'i' && s.toLower == 's' then rest else name
    | _ => name
  let kept := body.filter fun c => c != ' ' && c != '_' && c != '-' && c.toNat < 128
  String.ofList (kept.map Char.toLower)

def tableEntry? (table : List (List String × List Text.Stretch)) (name : String) :
    Option CharSet :=
  (table.find? fun entry => entry.1.contains name).map fun entry => .stretches entry.2

def unassigned : CharSet := .not (.stretches Text.assigned)

def categorySet? (name : String) : Option CharSet :=
  match name with
  | "cn" | "unassigned" => some unassigned
  | "c" | "other" =>
    some (.union (.stretches (Text.controls ++ Text.formatMarks ++ Text.privateUse)) unassigned)
  | _ => tableEntry? Text.categories name

/-- The set of a property on its own. -/
def propertySet? (name : String) : Option CharSet :=
  match name with
  | "alphabetic" | "alpha" =>
    some (.stretches (Text.alphabeticSpans.map (fun span => ⟨span.1, span.2, 1⟩)
      ++ [⟨65, 90, 1⟩, ⟨97, 122, 1⟩]))
  | "whitespace" | "space" | "wspace" => some .space
  | _ =>
    ((categorySet? name).orElse fun _ => tableEntry? Text.scripts name).orElse fun _ =>
      tableEntry? Text.pictureProperties name

/-- The set of a property with a value. -/
def valueSet? (property value : String) : Option CharSet :=
  match property with
  | "gc" | "generalcategory" => categorySet? value
  | "sc" | "script" | "scx" | "scriptextensions" => tableEntry? Text.scripts value
  | _ => none

/-- Splits at the first occurrence of a mark. -/
def splitMark (mark : List Char) : List Char → Option (List Char × List Char)
  | [] => none
  | c :: rest =>
    if mark.isPrefixOf (c :: rest) then some ([], (c :: rest).drop mark.length)
    else (splitMark mark rest).map fun (before, after) => (c :: before, after)

/-- The set that a property in braces describes. -/
def describedSet? (text : List Char) : Option CharSet :=
  match splitMark ['!', '='] text with
  | some (name, value) => (valueSet? (plainName name) (plainName value)).map .not
  | none =>
    match (splitMark [':'] text).orElse fun _ => splitMark ['='] text with
    | some (name, value) => valueSet? (plainName name) (plainName value)
    | none => propertySet? (plainName text)

/-- A property class; the reader stands on its letter. -/
def readProperty (negated : Bool) : Reader CharSet := do
  if !(← flags).unicode then giveUp
  let next ← step
  let found ←
    match next with
    | none => giveUp
    | some '{' =>
      skip 1
      skipSpace
      let text ← takeWhile (· != '}')
      if !(← takes ['}']) then giveUp
      let spaced := (← flags).spaced
      pure (describedSet? (if spaced then text.filter fun c => !Text.isBlank c else text))
    | some c =>
      skip 1
      pure (categorySet? (String.singleton c.toLower))
  match found with
  | none => giveUp
  | some set =>
    let closed := if (← flags).caseless then CharSet.anyCase set else set
    pure (if negated then .not closed else closed)

/-- A class written as a letter, negated by the capital letter. -/
def letterSet (set : CharSet) (negated : Bool) : Reader CharSet := do
  skip 1
  if (← flags).unicode then pure (if negated then .not set else set)
  else if negated then giveUp
  else pure (.inter set .ascii)

/-- Signs that may stand behind a backslash for themselves: all of ASCII but letters, digits and
angle brackets. -/
def isPlainEscape (c : Char) : Bool :=
  c.toNat < 128 && !c.isAlphanum && c != '<' && c != '>'

/-- The special edges of words in braces behind `\b`. -/
def edges (ascii : Bool) : List (List Char × Look) :=
  [("\x7bstart\x7d".toList, .wordStart ascii), ("\x7bend\x7d".toList, .wordEnd ascii),
    ("\x7bstart-half\x7d".toList, .wordStartHalf ascii), ("\x7bend-half\x7d".toList, .wordEndHalf ascii)]

def isEdgeLetter (c : Char) : Bool := c.isAlpha || c == '-'

/-- An edge of words behind `\b`. Braces that hold a name must hold a known one. -/
def readEdge : Reader Look := do
  let ascii := !(← flags).unicode
  let state ← get
  match (edges ascii).find? fun entry => entry.1.isPrefixOf state.rest with
  | some (text, look) =>
    skip text.length
    pure look
  | none =>
    match state.rest with
    | '{' :: c :: _ => if isEdgeLetter c then giveUp else pure (.wordEdge ascii)
    | _ => pure (.wordEdge ascii)

/-- What stands behind a backslash; the reader stands behind it. -/
def readEscape : Reader Escape := do
  let c ← need
  let ascii := !(← flags).unicode
  let char (image : Char) : Reader Escape := do
    skip 1
    pure (.char image)
  let look (look : Look) : Reader Escape := do
    skip 1
    pure (.look look)
  match c with
  | 'x' => pure (.char (← readHex 2))
  | 'u' => pure (.char (← readHex 4))
  | 'U' => pure (.char (← readHex 8))
  | 'p' => pure (.set (← readProperty false))
  | 'P' => pure (.set (← readProperty true))
  | 'd' => pure (.set (← letterSet .digit false))
  | 'D' => pure (.set (← letterSet .digit true))
  | 's' => pure (.set (← letterSet .space false))
  | 'S' => pure (.set (← letterSet .space true))
  | 'w' => pure (.set (← letterSet .word false))
  | 'W' => pure (.set (← letterSet .word true))
  | 'a' => char (Char.ofNat 7)
  | 'f' => char (Char.ofNat 12)
  | 't' => char '\t'
  | 'n' => char '\n'
  | 'r' => char '\r'
  | 'v' => char (Char.ofNat 11)
  | 'A' => look .textStart
  | 'z' => look .textEnd
  | 'B' => look (.noWordEdge ascii)
  | '<' => look (.wordStart ascii)
  | '>' => look (.wordEnd ascii)
  | 'b' =>
    skip 1
    pure (.look (← readEdge))
  | c => if isPlainEscape c then char c else giveUp

/-- The set of one character under the flags. -/
def charSet (flags : Flags) (c : Char) : CharSet :=
  if !flags.caseless then .single c
  else if flags.unicode then .anyCase (.single c)
  else .ofChars [c, c.toLower, c.toUpper]

/-- Closes a class under case, if the flags say so, and negates it. -/
def finishClass (flags : Flags) (negated : Bool) (set : CharSet) : Reader CharSet :=
  let folded := if flags.caseless then CharSet.anyCase set else set
  let closed := if flags.unicode then folded else .inter folded .ascii
  if !negated then pure closed
  else if flags.unicode then pure (.not closed)
  else giveUp

/-- ASCII classes by name. -/
def namedClass? (name : List Char) : Option CharSet :=
  let spans (all : List (Char × Char)) : CharSet := .unionAll (all.map fun (a, b) => .span a b)
  match String.ofList name with
  | "alnum" => some (spans [('0', '9'), ('A', 'Z'), ('a', 'z')])
  | "alpha" => some (spans [('A', 'Z'), ('a', 'z')])
  | "ascii" => some .ascii
  | "blank" => some (.ofChars ['\t', ' '])
  | "cntrl" => some (spans [(Char.ofNat 0, Char.ofNat 31), (Char.ofNat 127, Char.ofNat 127)])
  | "digit" => some (spans [('0', '9')])
  | "graph" => some (spans [('!', '~')])
  | "lower" => some (spans [('a', 'z')])
  | "print" => some (spans [(' ', '~')])
  | "punct" => some (spans [('!', '/'), (':', '@'), ('[', Char.ofNat 96), ('{', '~')])
  | "space" => some (.ofChars ['\t', '\n', Char.ofNat 11, Char.ofNat 12, '\r', ' '])
  | "upper" => some (spans [('A', 'Z')])
  | "word" => some (spans [('0', '9'), ('A', 'Z'), ('_', '_'), ('a', 'z')])
  | "xdigit" => some (spans [('0', '9'), ('A', 'F'), ('a', 'f')])
  | _ => none

/-- An ASCII class in brackets and colons, such as `[:alpha:]`, if one stands here. -/
def asciiClass? (chars : List Char) : Option (CharSet × List Char) := do
  let body ← if ['[', ':'].isPrefixOf chars then some (chars.drop 2) else none
  let negated := body.head? == some '^'
  let (name, rest) ← splitMark [':'] (if negated then body.drop 1 else body)
  if rest.head? != some ']' then none
  let set ← namedClass? name
  some (if negated then .not set else set, rest.drop 1)

/-- One member of a class. -/
def readMember : Reader Escape := do
  let c ← need
  if c == '\\' then
    skip 1
    readEscape
  else
    if c.toNat > 127 && !(← flags).unicode then giveUp
    skip 1
    pure (.char c)

def memberSet : Escape → Reader CharSet
  | .char c => pure (.single c)
  | .set set => pure set
  | .look _ => giveUp

/-- The character at what is left after one place, blanks skipped. -/
def afterNext : Reader (Option Char) := fun state =>
  let rest := state.rest.drop 1
  some ((if state.flags.spaced then dropIgnored false rest else rest).head?, state)

/-- A member of a class or a span of characters. -/
def readRange : Reader CharSet := do
  let first ← readMember
  skipSpace
  let c ← need
  let following ← afterNext
  if c != '-' || following == some ']' || following == some '-' then memberSet first
  else
    let _ ← step
    let last ← readMember
    match first, last with
    | .char a, .char b => if a ≤ b then pure (.span a b) else giveUp
    | _, _ => giveUp

/-- Ways to combine what stands left and right of a doubled sign in a class. -/
inductive Combination
  | inter | minus | symmetric

def Combination.apply (flags : Flags) (combination : Combination) (left right : CharSet) :
    CharSet :=
  let fold (set : CharSet) : CharSet := if flags.caseless then .anyCase set else set
  match combination with
  | .inter => .inter (fold left) (fold right)
  | .minus => .inter (fold left) (.not (fold right))
  | .symmetric => .symmetric (fold left) (fold right)

def combine (flags : Flags) (pending : Option (CharSet × Combination)) (right : CharSet) :
    CharSet :=
  match pending with
  | some (left, combination) => combination.apply flags left right
  | none => right

mutual

/-- A class behind its opening bracket. -/
def readClass : Nat → Reader CharSet
  | 0 => giveUp
  | fuel + 1 => do
    let _ ← skipSpace
    let negated ← takes ['^']
    if negated then skipSpace
    let _ ← need
    let leading ← readLeading fuel
    let set ← readClassItems fuel none leading
    finishClass (← flags) negated set

/-- Dashes at the start of a class, or else one closing bracket, stand for themselves. -/
def readLeading : Nat → Reader CharSet
  | 0 => giveUp
  | fuel + 1 => do
    match ← need with
    | '-' =>
      let _ ← step
      pure (.union (.single '-') (← readDashes fuel))
    | ']' =>
      let _ ← step
      pure (.single ']')
    | _ => pure .none_

def readDashes : Nat → Reader CharSet
  | 0 => giveUp
  | fuel + 1 => do
    match ← need with
    | '-' =>
      let _ ← step
      readDashes fuel
    | _ => pure .none_

/-- The members of a class up to its closing bracket, with what stands left of a doubled sign. -/
def readClassItems : Nat → Option (CharSet × Combination) → CharSet → Reader CharSet
  | 0, _, _ => giveUp
  | fuel + 1, pending, union => do
    skipSpace
    let c ← need
    let flags ← flags
    let rest := (← get).rest
    if c == '[' then
      match asciiClass? rest with
      | some (set, after) =>
        modify fun state => { state with rest := after }
        readClassItems fuel pending (.union union set)
      | none =>
        skip 1
        let set ← readClass fuel
        readClassItems fuel pending (.union union set)
    else if c == ']' then
      skip 1
      pure (combine flags pending union)
    else if ← takes ['&', '&'] then
      readClassItems fuel (some (combine flags pending union, .inter)) .none_
    else if ← takes ['-', '-'] then
      readClassItems fuel (some (combine flags pending union, .minus)) .none_
    else if ← takes ['~', '~'] then
      readClassItems fuel (some (combine flags pending union, .symmetric)) .none_
    else
      let set ← readRange
      readClassItems fuel pending (.union union set)

end

/-- One flag switched on or off. -/
def Flags.switch? (flags : Flags) (letter : Char) (on : Bool) : Option Flags :=
  match letter with
  | 'i' => some { flags with caseless := on }
  | 'm' => some { flags with multiline := on }
  | 's' => some { flags with dotAll := on }
  | 'U' => some { flags with lazyFirst := on }
  | 'u' => some { flags with unicode := on }
  | 'x' => some { flags with spaced := on }
  | 'R' => some { flags with pairs := on }
  | _ => none

/-- The flags that a list of letters sets; letters behind a dash are switched off. No letter may
occur twice, and something must follow the dash. -/
def applyLetters (flags : Flags) (seen : List Char) (on : Bool) : List Char → Option Flags
  | [] => if seen.head? == some '-' then none else some flags
  | c :: rest =>
    if seen.contains c then none
    else if c == '-' then applyLetters flags (c :: seen) false rest
    else (flags.switch? c on).bind fun flags => applyLetters flags (c :: seen) on rest

def isNameStart (c : Char) : Bool := c == '_' || Text.isAlphabetic c

def isNamePart (c : Char) : Bool :=
  c == '_' || c == '.' || c == '[' || c == ']' || Text.isAlphanumeric c

/-- How a group begins. -/
inductive GroupStart
  | numbered
  | flags (flags : Flags)
  | switch (flags : Flags)

/-- The name of a group up to its angle bracket. -/
def readGroupName : Reader Unit := do
  let name ← takeWhile (· != '>')
  if !(← takes ['>']) then giveUp
  let state ← get
  match name with
  | [] => giveUp
  | c :: rest =>
    if !isNameStart c || !rest.all isNamePart || state.names.contains name then giveUp
    else set { state with names := name :: state.names }

/-- What stands between the parenthesis of a group and its body. -/
def readGroupStart : Reader GroupStart := do
  skipSpace
  let state ← get
  let ahead (text : String) : Bool := text.toList.isPrefixOf state.rest
  if ahead "?=" || ahead "?!" || ahead "?<=" || ahead "?<!" then giveUp
  else if ahead "?P<" then
    skip 3
    readGroupName
    pure .numbered
  else if ahead "?<" then
    skip 2
    readGroupName
    pure .numbered
  else if ahead "?" then
    skip 1
    let letters ← takeWhile fun c => c != ':' && c != ')'
    let last ← need
    skip 1
    match applyLetters state.flags [] true letters with
    | none => giveUp
    | some flags =>
      if last == ':' then pure (.flags flags)
      else if letters.isEmpty then giveUp
      else pure (.switch flags)
  else pure .numbered

/-- Numbers in braces behind an item. The reader stands on the opening brace. -/
def readBounds : Reader (Nat × Option Nat) := do
  let next ← step
  let bounds ←
    if next == some ',' then giveUp
    else
      let least ← decimal
      if (← need) == ',' then
        let _ ← step
        if (← need) == '}' then pure (least, none)
        else
          let most ← decimal
          pure (least, some most)
      else pure (least, some least)
  if (← need) != '}' then giveUp
  let _ ← step
  match bounds with
  | (least, some most) => if least ≤ most then pure bounds else giveUp
  | _ => pure bounds

/-- How often an item may occur, if the pattern says so here. -/
def readRepetition (c : Char) : Reader (Nat × Option Nat) := do
  match c with
  | '*' =>
    skip 1
    pure (0, none)
  | '+' =>
    skip 1
    pure (1, none)
  | '?' =>
    skip 1
    pure (0, some 1)
  | _ => readBounds

def dotSet (flags : Flags) : CharSet :=
  if flags.dotAll then .any
  else if flags.pairs then .not (.ofChars ['\n', '\r'])
  else .not (.single '\n')

/-- A single item that is neither a group nor a class. -/
def readPlain (c : Char) : Reader Node := do
  let flags ← flags
  skip 1
  match c with
  | '\\' =>
    match ← readEscape with
    | .char c => pure (.one (charSet flags c))
    | .set set => pure (.one set)
    | .look look => pure (.look look)
  | '.' => if flags.unicode then pure (.one (dotSet flags)) else giveUp
  | '^' => pure (.look (if flags.multiline then .lineStart flags.pairs else .textStart))
  | '$' => pure (.look (if flags.multiline then .lineEnd flags.pairs else .textEnd))
  | c => pure (.one (charSet flags c))

def sequenceOf : List Node → Node
  | [] => .empty
  | [item] => item
  | items => .sequence items

def choiceOf : List Node → Node
  | [branch] => branch
  | branches => .choice branches

mutual

/-- Branches up to the end of the pattern or of the group around them. -/
def readBranches : Nat → Reader (List Node)
  | 0 => giveUp
  | fuel + 1 => do
    let first ← readItems fuel []
    if ← takes ['|'] then
      let others ← readBranches fuel
      pure (first :: others)
    else pure [first]

/-- The items of a branch. Those read come last first; a switch of flags is no item and cannot be
repeated. -/
def readItems : Nat → List (Option Node) → Reader Node
  | 0, _ => giveUp
  | fuel + 1, read => do
    skipSpace
    match ← peek with
    | none => pure (sequenceOf (read.reverse.filterMap id))
    | some c =>
      if c == '|' || c == ')' then pure (sequenceOf (read.reverse.filterMap id))
      else if c == '(' then
        skip 1
        let item ← readGroup fuel
        readItems fuel (item :: read)
      else if c == '[' then
        skip 1
        let set ← readClass fuel
        readItems fuel (some (.one set) :: read)
      else if c == '*' || c == '+' || c == '?' || c == '{' then
        match read with
        | some item :: before =>
          let (least, most) ← readRepetition c
          let lazy ← takes ['?']
          let greedy := lazy == (← flags).lazyFirst
          readItems fuel (some (.repeat_ item least most greedy) :: before)
        | _ => giveUp
      else
        let item ← readPlain c
        readItems fuel (some item :: read)

/-- A group behind its parenthesis. Flags go back to what they were when it ends. -/
def readGroup : Nat → Reader (Option Node)
  | 0 => giveUp
  | fuel + 1 => do
    let before ← flags
    match ← readGroupStart with
    | .switch flags =>
      setFlags flags
      pure none
    | .flags flags =>
      setFlags flags
      let branches ← readBranches fuel
      if !(← takes [')']) then giveUp
      setFlags before
      pure (some (.group none (choiceOf branches)))
    | .numbered =>
      let number := (← get).nextGroup
      modify fun state => { state with nextGroup := number + 1 }
      let branches ← readBranches fuel
      if !(← takes [')']) then giveUp
      setFlags before
      pure (some (.group (some number) (choiceOf branches)))

end

/-- Deepest nesting of a pattern. -/
def maxDepth : Nat := 250

/-- Reads a whole pattern. No character takes more than three steps down. -/
def readPattern (pattern : List Char) : Option Node := do
  let start : ReaderState := ⟨pattern, .initial, 1, []⟩
  let (branches, last) ← (readBranches (3 * pattern.length + 3)) start
  let node := choiceOf branches
  if last.rest.isEmpty && node.depth ≤ maxDepth then some node else none

end ApiProbe.Regex
