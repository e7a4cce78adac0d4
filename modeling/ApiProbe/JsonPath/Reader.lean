import ApiProbe.JsonPath.Basic
import ApiProbe.Json.Reader
import ApiProbe.Text.Blank
import ApiProbe.Text.Split

/-!
Reading paths. The sign of the root may be left out. Names follow a dot, or two dots to reach
everything below; brackets hold quoted names, positions, unions of these, slices and filters. An
error names the place up to which the path was read.
-/
namespace ApiProbe.JsonPath

inductive Fault
  | empty
  | unexpected (c : Char)
  | nameMissing
  | unclosed
  | emptyBrackets
  | selectorUnknown (part : String)
  | sliceTooLong (inner : String)
  | badBound (text : String)
  | zeroStep
  | filterBare (text : String)
  | filterRootless (text : String)
  | badLiteral (text : String)
  /-- A fault in the path of a filter, with that path and the place in it. -/
  | inFilter (fault : Fault) (path : String) (position : Nat)
  deriving Repr, DecidableEq

/-- Wording of a fault at a place of a path. -/
def placed (reason path : String) (position : Nat) : String :=
  s!"{reason} in JSONPath '{path}' at position {position}"

def Fault.reason : Fault → String
  | .empty => "empty expression"
  | .unexpected c => s!"unexpected '{c}'"
  | .nameMissing => "expected a member name"
  | .unclosed => "unclosed '['"
  | .emptyBrackets => "empty brackets"
  | .selectorUnknown part => s!"unsupported selector '{part}'"
  | .sliceTooLong inner => s!"invalid slice '{inner}'"
  | .badBound text => s!"invalid slice bound '{text}'"
  | .zeroStep => "slice step must not be 0"
  | .filterBare text => s!"filter must be wrapped in parentheses: '{text}'"
  | .filterRootless text => s!"filter must start with '@': '{text}'"
  | .badLiteral text => s!"invalid filter literal '{text}'"
  | .inFilter fault path position =>
    "Invalid pattern: " ++ placed fault.reason path position

/-- A path that cannot be read. -/
structure PathError where
  fault : Fault
  path : String
  position : Nat
  deriving Repr, DecidableEq

def PathError.message (error : PathError) : String :=
  placed error.fault.reason error.path error.position

/-- A fault met while reading, with the number of characters that were still to be read. -/
structure Stop where
  fault : Fault
  left : Nat

def isQuote (c : Char) : Bool := c == '\'' || c == '"'

/-- Where the reader stands with quotes after a character: inside the quote that is open, if any. -/
def quoteAfter (opened : Option Char) (c : Char) : Option Char :=
  match opened with
  | some q => if c == q then none else some q
  | none => if isQuote c then some c else none

/-- Splits at the bracket that closes `depth` open ones, quoted text aside. -/
def splitClosing (opened : Option Char) (depth : Nat) :
    List Char → Option (List Char × List Char)
  | [] => none
  | c :: rest =>
    let keep := fun (depth : Nat) =>
      (splitClosing (quoteAfter opened c) depth rest).map fun (inner, after) => (c :: inner, after)
    if opened.isNone && (c == '[' || c == '(') then keep (depth + 1)
    else if opened.isNone && (c == ']' || c == ')') then
      if depth ≤ 1 then some ([], rest) else keep (depth - 1)
    else keep depth

theorem splitClosing_length {opened : Option Char} {depth : Nat} {chars inner after : List Char}
    (found : splitClosing opened depth chars = some (inner, after)) :
    inner.length + after.length < chars.length := by
  induction chars generalizing opened depth inner after with
  | nil => simp [splitClosing] at found
  | cons c rest ih =>
    simp only [splitClosing] at found
    split at found
    · obtain ⟨⟨tail, last⟩, inside, same⟩ := Option.map_eq_some_iff.mp found
      simp only [Prod.mk.injEq] at same
      obtain ⟨rfl, rfl⟩ := same
      have := ih inside
      simp only [List.length_cons]; omega
    · split at found
      · split at found
        · simp only [Option.some.injEq, Prod.mk.injEq] at found
          obtain ⟨rfl, rfl⟩ := found
          simp
        · obtain ⟨⟨tail, last⟩, inside, same⟩ := Option.map_eq_some_iff.mp found
          simp only [Prod.mk.injEq] at same
          obtain ⟨rfl, rfl⟩ := same
          have := ih inside
          simp only [List.length_cons]; omega
      · obtain ⟨⟨tail, last⟩, inside, same⟩ := Option.map_eq_some_iff.mp found
        simp only [Prod.mk.injEq] at same
        obtain ⟨rfl, rfl⟩ := same
        have := ih inside
        simp only [List.length_cons]; omega

/-- Parts between separators, quoted text aside; there is at least one. -/
def splitParts (separator : Char) (opened : Option Char) : List Char → List (List Char)
  | [] => [[]]
  | c :: rest =>
    if opened.isNone && c == separator then [] :: splitParts separator none rest
    else
      match splitParts separator (quoteAfter opened c) rest with
      | part :: parts => (c :: part) :: parts
      | [] => [[c]]

/-- Text between two equal quotes. -/
def quoted? (part : List Char) : Option (List Char) :=
  match part with
  | q :: rest =>
    if isQuote q && !rest.isEmpty && rest.getLast? == some q then some rest.dropLast else none
  | [] => none

def readPick (part : List Char) : Except Fault Pick :=
  match quoted? part with
  | some key => .ok (.name (String.ofList key))
  | none =>
    if part == ['*'] then .ok .every
    else
      match Decimal.readInt64? part with
      | some position => .ok (.index position)
      | none => .error (.selectorUnknown (String.ofList part))

def readPicks : List (List Char) → Except Fault (List Pick)
  | [] => .ok []
  | part :: rest => do
    let first ← readPick (Text.trimChars part)
    let others ← readPicks rest
    pure (first :: others)

def readBound (text : List Char) : Except Fault (Option Int) :=
  if text.isEmpty then .ok none
  else
    match Decimal.readInt64? text with
    | some n => .ok (some n)
    | none => .error (.badBound (String.ofList text))

def readSlice (inner : List Char) : Except Fault Slice := do
  let parts := (Text.parts ':' inner).map Text.trimChars
  if parts.length > 3 then throw (.sliceTooLong (String.ofList inner))
  let start ← readBound ((parts[0]?).getD [])
  let stop ← readBound ((parts[1]?).getD [])
  let step := (← readBound ((parts[2]?).getD [])).getD 1
  if step == 0 then throw .zeroStep
  pure ⟨start, stop, step⟩

/-- Relations in the order in which they are looked for. -/
def relations : List (List Char × Relation) :=
  [(['=', '='], .eq), (['!', '='], .ne), (['<', '='], .le), (['>', '='], .ge), (['<'], .lt),
    (['>'], .gt)]

/-- Splits at the first relation that is not quoted. -/
def splitRelation (opened : Option Char) : List Char → Option (List Char × Relation × List Char)
  | [] => none
  | c :: rest =>
    let later :=
      (splitRelation (quoteAfter opened c) rest).map fun (left, relation, right) =>
        (c :: left, relation, right)
    if opened.isSome || isQuote c then later
    else
      match relations.find? fun entry => entry.1.isPrefixOf (c :: rest) with
      | some (symbol, relation) => some ([], relation, (c :: rest).drop symbol.length)
      | none => later

def readLiteral (text : List Char) : Except Fault Json :=
  match text.head?, quoted? text with
  | some '\'', some inner => .ok (.str (String.ofList inner))
  | _, _ =>
    match Json.read (String.ofList text) with
    | .ok value => .ok value
    | .error _ => .error (.badLiteral (String.ofList text))

/-- What stands in brackets, except that the path of a filter is left to be read. -/
inductive Content
  | done (selector : Selector)
  | filter (path : List Char) (test : Option (Relation × Json))

/-- The path of a filter after its sign of the root. -/
def filterPath (side : List Char) : Except Fault (List Char) :=
  match Text.trimChars side with
  | '@' :: path => .ok path
  | other => .error (.filterRootless (String.ofList other))

theorem trimChars_length (chars : List Char) : (Text.trimChars chars).length ≤ chars.length := by
  have right (l : List Char) : (Text.trimRight l).length ≤ l.length := by
    have := (List.dropWhile_sublist (l := l.reverse) Text.isBlank).length_le
    simpa [Text.trimRight] using this
  have left := (List.dropWhile_sublist (l := chars) Text.isBlank).length_le
  exact Nat.le_trans (right _) left

theorem filterPath_length {side path : List Char} (found : filterPath side = .ok path) :
    path.length < side.length := by
  unfold filterPath at found
  have short := trimChars_length side
  split at found
  · rename_i rest same
    rw [same] at short
    simp only [Except.ok.injEq] at found
    subst found
    simp only [List.length_cons] at short
    omega
  · simp at found

theorem splitRelation_length {opened : Option Char} {chars left right : List Char}
    {relation : Relation} (found : splitRelation opened chars = some (left, relation, right)) :
    left.length ≤ chars.length := by
  induction chars generalizing opened left right with
  | nil => simp [splitRelation] at found
  | cons c rest ih =>
    have later {found' : Option (List Char × Relation × List Char)}
        (isLater : found' = (splitRelation (quoteAfter opened c) rest).map
          fun (left, relation, right) => (c :: left, relation, right))
        (found : found' = some (left, relation, right)) : left.length ≤ (c :: rest).length := by
      rw [isLater] at found
      obtain ⟨⟨before, relation', after⟩, inside, same⟩ := Option.map_eq_some_iff.mp found
      simp only [Prod.mk.injEq] at same
      obtain ⟨rfl, rfl, rfl⟩ := same
      have := ih inside
      simpa using this
    simp only [splitRelation] at found
    split at found
    · exact later rfl found
    · split at found
      · simp only [Option.some.injEq, Prod.mk.injEq] at found
        obtain ⟨rfl, -, -⟩ := found
        simp
      · exact later rfl found

/-- Text between parentheses. -/
def parenthesized? : List Char → Option (List Char)
  | '(' :: rest => if rest.getLast? == some ')' then some rest.dropLast else none
  | _ => none

theorem parenthesized?_length {text inner : List Char} (found : parenthesized? text = some inner) :
    inner.length < text.length := by
  unfold parenthesized? at found
  split at found
  · split at found
    · simp only [Option.some.injEq] at found
      subst found
      simp only [List.length_dropLast, List.length_cons]
      omega
    · simp at found
  · simp at found

theorem map_eq_ok {ε α β : Type} {f : α → β} {result : Except ε α} {b : β}
    (found : result.map f = .ok b) : ∃ a, result = .ok a ∧ f a = b := by
  cases result with
  | error e => simp [Except.map] at found
  | ok a => exact ⟨a, rfl, by simpa [Except.map] using found⟩

/-- A filter after its question mark. -/
def readFilter (text : List Char) : Except Fault Content :=
  match parenthesized? text with
  | none => .error (.filterBare (String.ofList text))
  | some inner =>
    match splitRelation none (Text.trimChars inner) with
    | some (left, relation, right) =>
      match readLiteral (Text.trimChars right) with
      | .error fault => .error fault
      | .ok literal => (filterPath left).map fun path => .filter path (some (relation, literal))
    | none => (filterPath inner).map fun path => .filter path none

theorem readFilter_length {text path : List Char} {test : Option (Relation × Json)}
    (found : readFilter text = .ok (.filter path test)) : path.length < text.length := by
  unfold readFilter at found
  split at found
  · simp at found
  · rename_i inner opened
    have shorter := parenthesized?_length opened
    split at found
    · rename_i left relation right split_
      have side := splitRelation_length split_
      have trimmed := trimChars_length inner
      split at found
      · simp at found
      · obtain ⟨path', isPath, same⟩ := map_eq_ok found
        have := filterPath_length isPath
        cases same
        omega
    · obtain ⟨path', isPath, same⟩ := map_eq_ok found
      have := filterPath_length isPath
      cases same
      omega

/-- A selector that is no filter. -/
def readSelector (inner : List Char) : Except Fault Selector :=
  let parts := splitParts ',' none inner
  if inner == ['*'] then .ok (.pick .every)
  else if parts.length > 1 then (readPicks parts).map .union
  else if (quoted? inner).isNone && inner.contains ':' then (readSlice inner).map .slice
  else (readPick inner).map .pick

/-- What stands in a pair of brackets. -/
def readContent (brackets : List Char) : Except Fault Content :=
  match Text.trimChars brackets with
  | [] => .error .emptyBrackets
  | '?' :: rest => readFilter (Text.trimChars rest)
  | inner => (readSelector inner).map .done

theorem readContent_length {brackets path : List Char} {test : Option (Relation × Json)}
    (found : readContent brackets = .ok (.filter path test)) : path.length < brackets.length := by
  unfold readContent at found
  have short := trimChars_length brackets
  split at found
  · simp at found
  · rename_i rest same
    have inner := trimChars_length rest
    have := readFilter_length found
    rw [same] at short
    simp only [List.length_cons] at short
    omega
  · obtain ⟨selector, -, same⟩ := map_eq_ok found
    cases same

def isNameEnd (c : Char) : Bool := c == '.' || c == '['

/-- A bare name: up to the next dot or bracket, without the blanks around it. -/
def readName (chars : List Char) : Except Stop (String × List Char) :=
  let name := Text.trimChars (chars.takeWhile fun c => !isNameEnd c)
  let rest := chars.dropWhile fun c => !isNameEnd c
  if name.isEmpty then .error ⟨.nameMissing, rest.length⟩
  else .ok (String.ofList name, rest)

/-- The brackets whose opening one has just been read. -/
def readBrackets (chars : List Char) : Except Stop (Content × List Char) :=
  match splitClosing none 1 chars with
  | none => .error ⟨.unclosed, chars.length + 1⟩
  | some (inner, rest) =>
    match readContent inner with
    | .ok content => .ok (content, rest)
    | .error fault => .error ⟨fault, rest.length⟩

/-- A star or a bare name. -/
def readStarOrName : List Char → Except Stop (Content × List Char)
  | '*' :: rest => .ok (.done (.pick .every), rest)
  | chars => (readName chars).map fun (key, rest) => (.done (.pick (.name key)), rest)

/-- The next segment; the flag is true if it reaches everything below. -/
def readStep : List Char → Except Stop (Bool × Content × List Char)
  | '.' :: '.' :: '[' :: rest => (readBrackets rest).map (true, ·)
  | '.' :: '.' :: rest => (readStarOrName rest).map (true, ·)
  | '.' :: rest => (readStarOrName rest).map (false, ·)
  | '[' :: rest => (readBrackets rest).map (false, ·)
  | c :: rest => .error ⟨.unexpected c, rest.length + 1⟩
  | [] => .error ⟨.empty, 0⟩

theorem readName_length {chars rest : List Char} {key : String}
    (found : readName chars = .ok (key, rest)) : rest.length ≤ chars.length := by
  have short := (List.dropWhile_sublist (l := chars) fun c => !isNameEnd c).length_le
  simp only [readName] at found
  split at found
  · simp at found
  · simp only [Except.ok.injEq, Prod.mk.injEq] at found
    obtain ⟨-, rfl⟩ := found
    exact short

theorem readBrackets_length {chars rest : List Char} {content : Content}
    (found : readBrackets chars = .ok (content, rest)) :
    rest.length < chars.length ∧
      ∀ path test, content = .filter path test → path.length < chars.length := by
  unfold readBrackets at found
  split at found
  · simp at found
  · rename_i inner after closing
    have short := splitClosing_length closing
    split at found
    · rename_i content' inside
      simp only [Except.ok.injEq, Prod.mk.injEq] at found
      obtain ⟨rfl, rfl⟩ := found
      refine ⟨by omega, fun path test same => ?_⟩
      subst same
      have := readContent_length inside
      omega
    · simp at found

theorem readStarOrName_length {chars rest : List Char} {content : Content}
    (found : readStarOrName chars = .ok (content, rest)) :
    rest.length ≤ chars.length ∧ ∀ path test, content ≠ .filter path test := by
  unfold readStarOrName at found
  split at found
  · simp only [Except.ok.injEq, Prod.mk.injEq] at found
    obtain ⟨rfl, rfl⟩ := found
    exact ⟨by simp, by simp⟩
  · obtain ⟨⟨key, rest'⟩, inside, same⟩ := map_eq_ok found
    simp only [Prod.mk.injEq] at same
    obtain ⟨rfl, rfl⟩ := same
    exact ⟨readName_length inside, by simp⟩

/-- A step takes at least one character, and what it leaves to be read is shorter. -/
theorem readStep_length {chars rest : List Char} {deep : Bool} {content : Content}
    (found : readStep chars = .ok (deep, content, rest)) :
    rest.length < chars.length ∧
      ∀ path test, content = .filter path test → path.length < chars.length := by
  unfold readStep at found
  split at found
  · obtain ⟨⟨content', rest'⟩, inside, same⟩ := map_eq_ok found
    simp only [Prod.mk.injEq] at same
    obtain ⟨-, rfl, rfl⟩ := same
    have ⟨short, path⟩ := readBrackets_length inside
    refine ⟨by simp only [List.length_cons]; omega, fun p t same => ?_⟩
    have := path p t same
    simp only [List.length_cons]; omega
  · obtain ⟨⟨content', rest'⟩, inside, same⟩ := map_eq_ok found
    simp only [Prod.mk.injEq] at same
    obtain ⟨-, rfl, rfl⟩ := same
    have ⟨short, path⟩ := readStarOrName_length inside
    exact ⟨by simp only [List.length_cons]; omega, fun p t same => absurd same (path p t)⟩
  · obtain ⟨⟨content', rest'⟩, inside, same⟩ := map_eq_ok found
    simp only [Prod.mk.injEq] at same
    obtain ⟨-, rfl, rfl⟩ := same
    have ⟨short, path⟩ := readStarOrName_length inside
    exact ⟨by simp only [List.length_cons]; omega, fun p t same => absurd same (path p t)⟩
  · obtain ⟨⟨content', rest'⟩, inside, same⟩ := map_eq_ok found
    simp only [Prod.mk.injEq] at same
    obtain ⟨-, rfl, rfl⟩ := same
    have ⟨short, path⟩ := readBrackets_length inside
    refine ⟨by simp only [List.length_cons]; omega, fun p t same => ?_⟩
    have := path p t same
    simp only [List.length_cons]; omega
  · simp at found
  · simp at found

def segment (deep : Bool) (selector : Selector) : Segment :=
  if deep then .descendant selector else .child selector

/-- The segments of a path after its root; blanks may stand between them. -/
def readSegments (chars : List Char) : Except Stop (List Segment) :=
  if (Text.trimLeft chars).isEmpty then .ok []
  else
    match _step : readStep (Text.trimLeft chars) with
    | .error stop => .error stop
    | .ok (deep, .done selector, rest) =>
      (readSegments rest).map fun segments => segment deep selector :: segments
    | .ok (deep, .filter path test, rest) =>
      match readSegments path with
      | .error stop =>
        let whole := '@' :: path
        .error ⟨.inFilter stop.fault (String.ofList whole) (whole.length - stop.left), rest.length⟩
      | .ok inner =>
        (readSegments rest).map fun segments => segment deep (.filter inner test) :: segments
termination_by chars.length
decreasing_by
  all_goals
    have trimmed := (List.dropWhile_sublist (l := chars) Text.isBlank).length_le
    have short := readStep_length _step
    simp only [Text.trimLeft] at short
  · omega
  · have := short.2 _ _ rfl
    omega
  · omega

/-- The segments of a trimmed path, its root included. -/
def readTrimmed (chars : List Char) : Except Stop (List Segment) :=
  match chars with
  | [] => .error ⟨.empty, 0⟩
  | c :: rest =>
    if c == '$' then readSegments rest
    else if isNameEnd c then readSegments chars
    else
      match readName chars with
      | .error stop => .error stop
      | .ok (key, after) =>
        (readSegments after).map fun segments => .child (.pick (.name key)) :: segments

/-- Reads a path; blanks around it do not count. -/
def read (path : String) : Except PathError JsonPath :=
  let chars := Text.trimChars path.toList
  match readTrimmed chars with
  | .ok segments => .ok segments
  | .error stop => .error ⟨stop.fault, String.ofList chars, chars.length - stop.left⟩

end ApiProbe.JsonPath
