import ApiProbe.Proofs.Script.PlacedHeads

/-!
The lowering, read by place. Each step looks ahead and back from its place in the tokens, cuts the
parts it needs, writes to the draft and goes on to a later place. Nothing it does crashes, no script
keeps it longer than it has tokens, and what comes of it is what comes of the lowering.
-/
namespace ApiProbe.Script.Placed
open Lowering

/-- What has been written, and the place to go on from. -/
abbrev Move := Outcome (Draft × Nat)

def fail {α : Type} (tokens : List Token) (i : Nat) (fault : SyntaxFault) : Outcome α :=
  .error (.fault ⟨fault, lineAt tokens i⟩)

section Functions

/-- The head of a function without a name, which starts at `start` and has its arrow at `arrow`. -/
def arrowBody (tokens : List Token) (draft : Draft) (start arrow : Nat) (names : String) : Move := do
  let known := draft.addCallable (← declaredName? tokens start)
  match nextSign? tokens (arrow + 1) "\x7b" with
  | some brace =>
    let opened := known.emit (s!"|{names}| " ++ "\x7b")
    let skipped := skip tokens opened (start + 1) brace
    pure (skipped.push .closure "\x7d" (lineAt tokens brace), brace + 1)
  | none => pure (skip tokens (known.emit s!"|{names}|") (start + 1) (arrow + 1), arrow + 1)

/-- Names of parameters between two places. -/
def parameters (tokens : List Token) (start stop : Nat) : Outcome (List String) := do
  settled (Lowering.parameters (← slice tokens start stop))

/-- The name of a function, if it has one, and the place of the parenthesis in front of its
parameters. -/
def functionStart (tokens : List Token) (i : Nat) : Outcome (Option String × Nat) :=
  match nextFrom? tokens (i + 1) with
  | none => fail tokens i .functionIncomplete
  | some first =>
    let name := wordAt? tokens first
    match if name.isNone then some first else nextFrom? tokens (first + 1) with
    | none => fail tokens i .functionIncomplete
    | some opening =>
      if signAt? tokens opening == some "(" then pure (name, opening)
      else fail tokens i .functionParenthesis

/-- A function with its head written. One with a name that starts a statement is a declaration. -/
def functionOpened (tokens : List Token) (draft : Draft) (i : Nat) (name : Option String)
    (names : String) : Outcome Draft := do
  let head := s!"|{names}| " ++ "\x7b"
  let declared ← if name.isSome then atStatementStart tokens i else pure false
  match name, declared with
  | some name, true =>
    pure (((draft.emit (s!"let {name} = " ++ head)).addCallable (some name)).push
      .function "\x7d;" (lineAt tokens i))
  | _, _ =>
    pure (((draft.addCallable (← declaredName? tokens i)).emit head).push
      .closure "\x7d" (lineAt tokens i))

def function (tokens : List Token) (draft : Draft) (i : Nat) : Move := do
  let (name, opening) ← functionStart tokens i
  let close ← closing tokens opening
  let names := ", ".intercalate (← parameters tokens (opening + 1) close)
  match nextSign? tokens (close + 1) "\x7b" with
  | none => fail tokens i .functionBody
  | some brace =>
    let opened ← functionOpened tokens draft i name names
    pure (skip tokens opened (i + 1) brace, brace + 1)

end Functions

section Words

/-- A loop that counts. Its head stands between two places. -/
def countingLoop (tokens : List Token) (draft : Draft) (i start close : Nat) (inner : List Nat) :
    Move := do
  match ← countingHead? tokens start close inner with
  | some text => pure (skip tokens (draft.emit text) (i + 1) (close + 1), close + 1)
  | none => fail tokens i .loopForm

/-- A loop over items, or over keys. The items are left to come. -/
def itemLoop (language : Language) (tokens : List Token) (draft : Draft) (i opening items : Nat)
    (name word : String) : Draft × Nat :=
  let begun := draft.emit s!"for {name} in "
  let line := lineAt tokens opening
  let opened :=
    if word == "in" && language == .javaScript then (begun.emit "(").push .paren ").keys()" line
    else begun.push .paren "" line
  (skip tokens opened (i + 1) items, items)

/-- A loop: over items, over keys, or counting. -/
def forLoop (language : Language) (tokens : List Token) (draft : Draft) (i : Nat) : Move :=
  match nextSign? tokens (i + 1) "(" with
  | none => pure (draft.emit "for", i + 1)
  | some opening => do
    let close ← closing tokens opening
    let inner := placesOf (← slice tokens (opening + 1) close) (opening + 1)
    let head ← slice inner (if declares tokens inner then 1 else 0) inner.length
    match head[0]?.bind (wordAt? tokens), head[1]?.bind (wordAt? tokens), head[2]? with
    | some name, some word, some items =>
      if word == "of" || word == "in" then
        pure (itemLoop language tokens draft i opening items name word)
      else countingLoop tokens draft i (opening + 1) close head
    | _, _, _ => countingLoop tokens draft i (opening + 1) close head

/-- The place behind the points and names that directly follow an operand. -/
def memberEnd (tokens : List Token) (i : Nat) : Nat :=
  if inside : i < tokens.length then
    if tokens[i].isSign "." && (wordAt? tokens (i + 1)).isSome then memberEnd tokens (i + 2) else i
  else i
termination_by tokens.length - i

def typeOf (tokens : List Token) (draft : Draft) (i : Nat) : Move :=
  match (nextFrom? tokens (i + 1)).filter fun place => (wordAt? tokens place).isSome with
  | none => fail tokens i .typeofOperand
  | some first => do
    let stop := memberEnd tokens (first + 1)
    let operand := render (← slice tokens first stop)
    pure (skip tokens (draft.emit s!"typeof({operand})") (i + 1) stop, stop)

/-- A new error is what stands in its parentheses. -/
def newError (tokens : List Token) (draft : Draft) (i : Nat) : Move :=
  match (nextFrom? tokens (i + 1)).filter fun place =>
      ((wordAt? tokens place).map isErrorName) == some true with
  | none => fail tokens i .newOperand
  | some name =>
    match nextSign? tokens (name + 1) "(" with
    | none => fail tokens i .newOperand
    | some opening => pure (skip tokens draft (i + 1) opening, opening)

/-- A command may leave out the parentheses around its arguments. -/
def command (tokens : List Token) (draft : Draft) (i : Nat) (word : String) : Move :=
  let begun := draft.emit word
  match nextOnLine? tokens (i + 1) with
  | some next =>
    if signAt? tokens next == some "(" then pure (begun, i + 1)
    else pure ((begun.emit "(").push .command ")" (lineAt tokens i), next)
  | none => pure (if word == "println" then begun.emit "()" else begun, i + 1)

/-- A word that is neither a property nor a keyword. -/
def name (language : Language) (tokens : List Token) (draft : Draft) (i : Nat) (word : String) :
    Move :=
  match if language == .javaScript then nextSign? tokens (i + 1) "=>" else none with
  | some arrow => arrowBody tokens draft i arrow word
  | none =>
    if draft.callables.contains word && (nextSign? tokens (i + 1) "(").isSome then
      pure (draft.emit s!"{word}.call", i + 1)
    else pure (draft.emit word, i + 1)

def keyword (language : Language) (tokens : List Token) (draft : Draft) (i : Nat) (word : String) :
    Move :=
  if ["let", "const", "var", "def"].contains word then pure (draft.emit "let", i + 1)
  else if word == "null" || word == "undefined" then pure (draft.emit "()", i + 1)
  else if word == "async" || word == "await" then fail tokens i .asyncCode
  else if word == "class" then fail tokens i .classCode
  else if word == "function" && language == .javaScript then function tokens draft i
  else if word == "for" then forLoop language tokens draft i
  else if word == "typeof" && language == .javaScript then typeOf tokens draft i
  else if word == "new" then newError tokens draft i
  else if commandWords.contains word && language == .groovy then command tokens draft i word
  else
    match if word == "if" || word == "while" then nextSign? tokens (i + 1) "(" else none with
    | some opening =>
      pure (skip tokens (draft.emit s!"{word} truthy") (i + 1) opening, opening)
    | none => name language tokens draft i word

/-- A call with one bare name as its argument hands over that name, too. -/
def boundCall? (tokens : List Token) (i : Nat) (word : String) (afterDot : Bool) : Option String :=
  match wordAt? tokens (i + 2) with
  | some name =>
    if signAt? tokens (i + 1) == some "(" && signAt? tokens (i + 3) == some ")"
        && !constantWords.contains name then
      if word == "expect" then some s!"expectBound({name}, \"{name}\")"
      else if afterDot then some s!"equalBound({name}, \"{name}\")"
      else none
    else none
  | none => none

/-- Names of string methods, which differ with the argument. -/
def stringMethod? (language : Language) (tokens : List Token) (i : Nat) (word : String) :
    Outcome (Option String) := do
  let some opening := nextSign? tokens (i + 1) "(" | pure none
  let argument ← match nextFrom? tokens (opening + 1) with
    | some place => do pure (some (← fetch tokens place).kind)
    | none => pure none
  let everywhere :=
    match argument with
    | some (.regex _ flags) => some (flags.contains 'g')
    | _ => none
  pure <| match language, word, everywhere with
    | .javaScript, "replace", some false => some "replaceRegex"
    | .javaScript, "replace", some true => some "replaceRegexAll"
    | .javaScript, "replaceAll", some _ => some "replaceRegexAll"
    | .groovy, "replace", _ => some "replaceAll"
    | .groovy, "replaceAll", _ => some "replaceRegexAll"
    | .groovy, "replaceFirst", _ => some "replaceRegex"
    | _, _, _ => none

def word (language : Language) (tokens : List Token) (draft : Draft) (i : Nat) (text : String) :
    Move := do
  let afterDot ← lastIsSign tokens i [".", "?."]
  let bound := if ["expect", "equal", "equals"].contains text then
    boundCall? tokens i text afterDot else none
  match bound with
  | some call => pure (draft.emit call, i + 4)
  | none =>
    if afterDot then
      let method ← stringMethod? language tokens i text
      pure (draft.emit (method.getD (renamed text)), i + 1)
    else keyword language tokens draft i text

end Words

section Signs

/-- The place behind the empty map: a colon alone in brackets. -/
def emptyMap? (tokens : List Token) (i : Nat) : Option Nat := do
  let colon ← nextSign? tokens (i + 1) ":"
  let last ← nextSign? tokens (colon + 1) "]"
  some (last + 1)

def openBracket (language : Language) (tokens : List Token) (draft : Draft) (i : Nat) : Move :=
  if language == .groovy then
    match emptyMap? tokens i with
    | some behind =>
      let skipped := skip tokens (draft.emit "#\x7b\x7d") (i + 1) behind
      pure ({ skipped with lastClosed := some .map }, behind)
    | none => do
      let close ← closing tokens i
      if holdsEntries 0 (← slice tokens (i + 1) close) then
        pure ((draft.emit "#\x7b").push .map "\x7d" (lineAt tokens i), i + 1)
      else pure ((draft.emit "[").push .bracket "]" (lineAt tokens i), i + 1)
  else pure ((draft.emit "[").push .bracket "]" (lineAt tokens i), i + 1)

def openParen (language : Language) (tokens : List Token) (draft : Draft) (i : Nat) : Move :=
  let plain : Draft × Nat := ((draft.emit "(").push .paren ")" (lineAt tokens i), i + 1)
  if language == .groovy then pure plain
  else do
    let close ← closing tokens i
    match nextSign? tokens (close + 1) "=>" with
    | none => pure plain
    | some arrow =>
      let names := ", ".intercalate (← parameters tokens (i + 1) close)
      arrowBody tokens draft i arrow names

/-- Whether the parentheses that close at a place follow a word that a block belongs to. -/
def ownsBlock (tokens : List Token) (close : Nat) : Outcome Bool :=
  match openingBefore? tokens 0 (close + 1) with
  | none => pure false
  | some opening => do
    pure (((← lastToken? tokens opening).bind Token.word?).any blockOwners.contains)

/-- Whether a brace opens a block of statements. -/
def opensBlock (tokens : List Token) (i : Nat) : Outcome Bool := do
  match ← lastBefore? tokens i with
  | none => pure true
  | some last =>
    if (signAt? tokens last).any [";", "\x7b", "\x7d"].contains then pure true
    else if (wordAt? tokens last).any ["else", "try", "finally", "do"].contains then pure true
    else if signAt? tokens last == some ")" then ownsBlock tokens last
    else pure false

/-- A closure with its head written. Behind a call it is the last argument, behind a name the only
one. -/
def closureOpened (tokens : List Token) (draft : Draft) (i : Nat) (head : String) : Outcome Draft := do
  let line := lineAt tokens i
  let word := (← lastToken? tokens i).bind Token.word?
  match if ← lastIsSign tokens i [")"] then draft.reopen? else none with
  | some reopened =>
    let separator := if reopened.endsOpen then "" else ", "
    pure ((reopened.emit (separator ++ head)).push .closure "\x7d)" line)
  | none =>
    if word.any fun word => word != "return" && word != "in" then
      pure ((draft.emit ("(" ++ head)).push .closure "\x7d)" line)
    else pure (((draft.addCallable (← declaredName? tokens i)).emit head).push .closure "\x7d" line)

def closure (tokens : List Token) (draft : Draft) (i : Nat) : Move := do
  let close ← closing tokens i
  let (names, behind) ← closureParameters tokens i close
  let opened ← closureOpened tokens draft i (s!"|{names}| " ++ "\x7b")
  pure (skip tokens opened (i + 1) behind, behind)

def openBrace (language : Language) (tokens : List Token) (draft : Draft) (i : Nat) : Move := do
  let block := (draft.emit "\x7b").push .block "\x7d" (lineAt tokens i)
  if language == .groovy then
    if ← opensBlock tokens i then pure (block, i + 1) else closure tokens draft i
  else
    let object := (← lastIsSign tokens i objectSigns) || (← lastIsWord tokens i ["return"])
    if object then pure ((draft.emit "#\x7b").push .object "\x7d" (lineAt tokens i), i + 1)
    else pure (block, i + 1)

def close (tokens : List Token) (draft : Draft) (i : Nat) (sign : String) : Move := do
  let closed ← draft.closeCommands
  match closed.frames with
  | [] => fail tokens i (.unexpected sign)
  | frame :: frames =>
    if fits sign frame.kind then
      pure (({ closed with frames, lastClosed := some frame.kind }).emit frame.close, i + 1)
    else fail tokens i (.unbalanced sign)

/-- A step up or down by one stands behind its variable. -/
def stepSign (tokens : List Token) (draft : Draft) (i : Nat) (sign : String) : Move := do
  let word := (← lastToken? tokens i).bind Token.word?
  if word.isSome || (← lastIsSign tokens i [")", "]"]) then
    pure (draft.emit (if sign == "++" then " += 1" else " -= 1"), i + 1)
  else fail tokens i (.stepInFront sign)

def sign (language : Language) (tokens : List Token) (draft : Draft) (i : Nat) (text : String) :
    Move :=
  match text with
  | "===" => pure (draft.emit "==", i + 1)
  | "!==" => pure (draft.emit "!=", i + 1)
  | "\x7b" => openBrace language tokens draft i
  | "(" => openParen language tokens draft i
  | "[" => openBracket language tokens draft i
  | "\x7d" | ")" | "]" => close tokens draft i text
  | ";" => do pure ((← draft.closeCommands).emit ";", i + 1)
  | "++" | "--" => stepSign tokens draft i text
  | "/=" => fail tokens i .divideAssign
  | "=>" | "->" => fail tokens i (.unexpected text)
  | _ =>
    if language == .groovy && text == ".." then pure (draft.emit "..=", i + 1)
    else if language == .groovy && text == "..<" then pure (draft.emit "..", i + 1)
    else if language == .groovy && text == "?:" then pure (draft.emit "??", i + 1)
    else if text == ":" && draft.context.inCommand then pure (draft.emit ",", i + 1)
    else pure (draft.emit text, i + 1)

end Signs

/-- Takes the token at a place, and those it takes along. -/
def step (language : Language) (tokens : List Token) (draft : Draft) (i : Nat) : Move := do
  let token ← fetch tokens i
  match token.kind with
  | .newline => pure (← lineEnd tokens draft i, i + 1)
  | .space text | .comment text => pure (draft.pad text, i + 1)
  | .quoted body quote =>
    let text ← if language == .groovy && quote == '"' then withDollars body
      else pure (Literal.quote body)
    pure (draft.emit (String.ofList text), i + 1)
  | .number text => pure (draft.emit (numberText language text), i + 1)
  | .template _ | .regex .. => pure (draft.emit (plainText token.kind), i + 1)
  | .word text => word language tokens draft i text
  | .sign text => sign language tokens draft i text

/-- Takes tokens from a place on to the end, in no more than a number of steps. -/
def run (language : Language) (tokens : List Token) (steps : Nat) (draft : Draft) (i : Nat) :
    Outcome Draft :=
  if i < tokens.length then
    match steps with
    | 0 => .error .hang
    | steps + 1 => do
      let (next, place) ← step language tokens draft i
      run language tokens steps next place
  else pure draft

/-- The script in the plain language, in as many steps as it has tokens. -/
def lower (language : Language) (script : String) : Outcome String := do
  let tokens ← tokens script
  let draft ← run language tokens tokens.length .start 0
  let closed ← draft.closeCommands
  match closed.frames with
  | [] => pure (String.join closed.pieces)
  | frame :: _ => .error (.fault ⟨.unclosed, frame.line⟩)

/-- A step of the lowering, as a move from a place. -/
def placed (i : Nat) (result : Step) : Move :=
  settled (result.map fun (state, taken) => (.of state, i + 1 + taken))

theorem placed_ite (i : Nat) (p : Prop) [Decidable p] (first second : Step) :
    placed i (if p then first else second) = if p then placed i first else placed i second :=
  apply_ite ..

theorem placed_ok_ite (i : Nat) (p : Prop) [Decidable p] (first second : State × Nat) :
    placed i (.ok (if p then first else second))
      = if p then placed i (.ok first) else placed i (.ok second) :=
  apply_ite (fun result => placed i (.ok result)) ..

theorem memberEnd_eq (tokens : List Token) (i : Nat) :
    memberEnd tokens i = i + (memberPath (tokens.drop i)).length := by
  fun_induction memberEnd tokens i with
  | case1 i inside path ih =>
    simp only [Bool.and_eq_true] at path
    obtain ⟨name, word⟩ := Option.isSome_iff_exists.mp path.2
    obtain ⟨second, there, is⟩ := Option.bind_eq_some_iff.mp word
    obtain ⟨more, same⟩ := List.getElem?_eq_some_iff.mp there
    have both : (tokens[i].isSign "." && second.word?.isSome) = true := by rw [path.1, is]; rfl
    have next : i + 1 + 1 = i + 2 := rfl
    rw [List.drop_eq_getElem_cons inside, List.drop_eq_getElem_cons more, same, memberPath, if_pos both,
      ih, next]
    simp only [List.length_cons]
    omega
  | case2 i inside ends =>
    rw [List.drop_eq_getElem_cons inside]
    by_cases more : i + 1 < tokens.length
    · rw [wordAt?, List.getElem?_eq_getElem more, Option.bind_some] at ends
      rw [List.drop_eq_getElem_cons more, memberPath, if_neg ends]
      rfl
    · rw [List.drop_eq_nil_of_le (by omega)]
      rfl
  | case3 i outside =>
    rw [List.drop_eq_nil_of_le (by omega)]
    rfl

/-- Where the items of a loop stand, behind its name and keyword. -/
theorem items_place (language : Language) (state : State) (spot : Spot) (name word : String)
    {declared inner : List Token} {items : Token} {opening : Ahead} {i : Nat}
    (third : (meaningful (loopHead inner))[2]? = some items)
    (whole : inner = declared ++ loopHead inner) :
    (placesOf (loopHead inner) (i + 1 + opening.passed + 1 + declared.length))[2]?
      = some (i + 1 + (Lowering.itemLoop language state spot opening inner name word).2) := by
  obtain ⟨short, place⟩ := placesOf_third third (i + 1 + opening.passed + 1 + declared.length)
  have counted := congrArg List.length whole
  rw [List.length_append] at counted
  rw [place]
  simp only [Lowering.itemLoop, Option.some.injEq]
  omega

namespace Stands
variable {tokens : List Token} {i : Nat} {spot : Spot} (stands : Stands tokens i spot) (state : State)
include stands

theorem fail {α : Type} (fault : SyntaxFault) :
    (fail tokens i fault : Outcome α) = settled (spot.fail fault) := by
  rw [Placed.fail, stands.line]
  rfl

theorem drop (n : Nat) : tokens.drop (i + 1 + n) = spot.rest.drop n := by
  rw [← List.drop_drop, stands.ahead]

theorem nextSign? (text : String) : nextSign? tokens (i + 1) text
    = (aheadSign? spot.rest text).map (i + 1 + ·.passed) := by
  rw [nextSign?_eq, stands.ahead]

/-- A sign found behind a part of what follows. -/
theorem nextSign?_behind {front after : List Token} (parts : spot.rest = front ++ after)
    (text : String) : Placed.nextSign? tokens (i + 1 + front.length) text
      = (aheadSign? after text).map (i + 1 + front.length + ·.passed) := by
  rw [nextSign?_eq, stands.drop, parts, List.drop_left]

theorem arrowBody (names : String) {between after : List Token} (parts : spot.rest = between ++ after) :
    arrowBody tokens (.of state) i (i + between.length) names
      = placed i (.ok (Lowering.arrowBody state spot names between after)) := by
  have behind : i + between.length + 1 = i + 1 + between.length := Nat.add_right_comm ..
  rw [Placed.arrowBody, stands.declaredName?, behind, Lowering.arrowBody]
  simp only [bind, Except.bind, stands.nextSign?_behind parts]
  cases found : aheadSign? after "\x7b" with
  | none =>
    simp only [Option.map_none, Draft.of_addCallable, Draft.of_emit, stands.skip, take_front parts]
    rfl
  | some brace =>
    have behind : tokens.drop (i + 1 + between.length) = after := by
      rw [stands.drop, parts, List.drop_left]
    have there := (aheadSign?_place behind found).1
    have passed : spot.rest.take (between.length + brace.passed) = between ++ after.take brace.passed := by
      rw [parts, List.take_length_add_append]
    simp only [Option.map_some, Draft.of_addCallable, Draft.of_emit, Nat.add_assoc (i + 1), stands.skip,
      passed, lineAt]
    rw [← Nat.add_assoc (i + 1), there]
    rfl

theorem functionStart : functionStart tokens i
    = settled ((Lowering.functionStart spot).map fun (name, opening) =>
        (name, i + 1 + opening.passed)) := by
  rw [Placed.functionStart, nextFrom?_eq, stands.ahead, Lowering.functionStart]
  simp only [stands.fail]
  cases one : ahead? spot.rest with
  | none => rfl
  | some first =>
    obtain ⟨here, behind⟩ := ahead?_place stands.ahead one
    simp only [Option.map_some, wordAt?, here, Option.bind_some, nextFrom?_eq, behind]
    cases first.token.word? with
    | none =>
      simp only [Option.isNone_none, ↓reduceIte, signAt?, here, Option.bind_some, sign?_beq]
      split <;> rfl
    | some name =>
      simp only [Option.isNone_some, Bool.false_eq_true, ↓reduceIte]
      cases two : ahead? first.rest with
      | none => rfl
      | some opening =>
        have there := (ahead?_place behind two).1
        simp only [Option.map_some, signAt?, there, Option.bind_some, sign?_beq]
        split
        · simp only [settled, Except.map, Except.mapError, pure, Except.pure, Nat.add_assoc]
        · rfl

/-- Where the parenthesis in front of the parameters stands. -/
theorem functionStart_place {name : Option String} {opening : Ahead}
    (begins : Lowering.functionStart spot = .ok (name, opening)) :
    tokens[i + 1 + opening.passed]? = some opening.token ∧
      tokens.drop (i + 1 + opening.passed + 1) = opening.rest ∧ opening.token.isSign "(" = true := by
  obtain ⟨front, parts, long, -, sign, -⟩ := functionStart_eq begins
  have place : tokens.drop (i + 1 + opening.passed) = opening.token :: opening.rest := by
    rw [stands.drop, parts, ← long, List.drop_left]
  obtain ⟨here, behind⟩ := getElem?_of_drop place
  exact ⟨here, behind, sign⟩

theorem functionOpened (name : Option String) (names : String) :
    functionOpened tokens (.of state) i name names
      = .ok (.of (Lowering.functionOpened state spot name names)) := by
  rw [Placed.functionOpened, Lowering.functionOpened.eq_def, stands.atStatementStart,
    stands.declaredName?, stands.line]
  cases name with
  | none => simp [bind, Except.bind, pure, Except.pure]
  | some name =>
    cases spot.atStatementStart <;> simp [bind, Except.bind, pure, Except.pure]

theorem function : function tokens (.of state) i = placed i (Lowering.function state spot) := by
  rw [Placed.function, stands.functionStart, Lowering.function]
  cases begins : Lowering.functionStart spot with
  | error error => rfl
  | ok start =>
    obtain ⟨name, opening⟩ := start
    obtain ⟨here, behind, sign⟩ := stands.functionStart_place begins
    have opens : isOpening opening.token = true := by simp [isOpening, sign]
    have inside := (List.getElem?_eq_some_iff.mp here).1
    simp only [settled, Except.map, Except.mapError, bind, Except.bind, closing_eq here opens, behind]
    cases encloses : splitClosing? 1 opening.rest with
    | none => rfl
    | some found =>
      obtain ⟨inner, closer, after⟩ := found
      rw [← behind] at encloses
      obtain ⟨cut, -, more⟩ := enclosed_places inside encloses
      simp only [parameters, cut, bind, Except.bind, nextSign?_eq, more]
      cases known : Lowering.parameters inner with
      | error error => rfl
      | ok names =>
        simp only [settled, Except.mapError]
        cases aheadSign? after "\x7b" with
        | none =>
          rw [Option.map_none, stands.fail]
          rfl
        | some brace =>
          have place : i + 1 + opening.passed + 1 + inner.length + 1 + brace.passed
              = i + 1 + (opening.passed + 1 + inner.length + 1 + brace.passed) := by omega
          simp only [Option.map_some, stands.functionOpened, place, stands.skip]
          rfl

section Loops
variable {opening : Ahead} {inner after declared : List Token} {closer : Token}

theorem countingLoop
    (parts : tokens.drop (i + 1 + opening.passed + 1) = inner ++ closer :: after)
    (whole : inner = declared ++ loopHead inner)
    (free : ∀ token ∈ declared, token.isSign ";" = false) :
    countingLoop tokens (.of state) i (i + 1 + opening.passed + 1)
        (i + 1 + opening.passed + 1 + inner.length)
        (placesOf (loopHead inner) (i + 1 + opening.passed + 1 + declared.length))
      = placed i (Lowering.countingLoop state spot opening inner) := by
  have counted := congrArg List.length whole
  rw [List.length_append] at counted
  have stop : i + 1 + opening.passed + 1 + inner.length
      = i + 1 + opening.passed + 1 + declared.length + (loopHead inner).length := by omega
  have place : tokens.drop (i + 1 + opening.passed + 1)
      = declared ++ (loopHead inner ++ closer :: after) := by
    rw [parts, ← List.append_assoc, ← whole]
  have counts := countingHead?_eq place free
  rw [Placed.countingLoop, stop, counts, ← stop, Lowering.countingLoop]
  cases Lowering.countingHead? (loopHead inner) with
  | none =>
    simp only [bind, Except.bind, stands.fail]
    rfl
  | some text =>
    have place : i + 1 + opening.passed + 1 + inner.length + 1
        = i + 1 + (opening.passed + 1 + inner.length + 1) := by omega
    simp only [bind, Except.bind, Draft.of_emit, place, stands.skip]
    rfl

theorem itemLoop (language : Language) (name word : String)
    (line : lineAt tokens (i + 1 + opening.passed) = opening.token.line) :
    itemLoop language tokens (.of state) i (i + 1 + opening.passed)
        (i + 1 + (Lowering.itemLoop language state spot opening inner name word).2) name word
      = (.of (Lowering.itemLoop language state spot opening inner name word).1,
          i + 1 + (Lowering.itemLoop language state spot opening inner name word).2) := by
  simp only [Placed.itemLoop, Lowering.itemLoop, line]
  split <;> simp only [Draft.of_emit, Draft.of_push, stands.skip]

theorem forLoop (language : Language) :
    forLoop language tokens (.of state) i = placed i (Lowering.forLoop language state spot) := by
  rw [Placed.forLoop, stands.nextSign?, Lowering.forLoop]
  cases found : aheadSign? spot.rest "(" with
  | none =>
    rw [Option.map_none, Draft.of_emit]
    rfl
  | some opening =>
    obtain ⟨front, parts, long, -, sign⟩ := aheadSign?_eq found
    have opens : isOpening opening.token = true := by simp [isOpening, sign]
    obtain ⟨here, behind⟩ := aheadSign?_place stands.ahead found
    have inside := (List.getElem?_eq_some_iff.mp here).1
    simp only [Option.map_some, closing_eq here opens, behind]
    cases encloses : splitClosing? 1 opening.rest with
    | none => rfl
    | some found =>
      obtain ⟨inner, closer, after⟩ := found
      rw [← behind] at encloses
      obtain ⟨cut, parts, -⟩ := enclosed_places inside encloses
      obtain ⟨declared, whole, free, head⟩ := loopHead_places parts
      have counting := stands.countingLoop state parts whole free
      have behindDeclared : tokens.drop (i + 1 + opening.passed + 1 + declared.length)
          = loopHead inner ++ (closer :: after) := by
        rw [← List.drop_drop, parts]
        conv_lhs => rw [whole]
        rw [List.append_assoc, List.drop_left]
      have line : lineAt tokens (i + 1 + opening.passed) = opening.token.line := by
        rw [lineAt, here]
        rfl
      simp only [bind, Except.bind, cut, head, placesOf_word behindDeclared, counting]
      rcases shape : meaningful (loopHead inner) with _ | ⟨name, _ | ⟨keyword, _ | ⟨items, more⟩⟩⟩
      · rfl
      · simp only [List.getElem?_cons_zero, List.getElem?_cons_succ, List.getElem?_nil,
          Option.bind_some, Option.bind_none]
        cases name.word? <;> rfl
      · rw [placesOf_none (n := 2) (by rw [shape]; rfl)]
        simp only [List.getElem?_cons_zero, List.getElem?_cons_succ, Option.bind_some]
        cases name.word? <;> cases keyword.word? <;> rfl
      · have third : (meaningful (loopHead inner))[2]? = some items := by
          rw [shape]
          rfl
        simp only [List.getElem?_cons_zero, List.getElem?_cons_succ, Option.bind_some]
        cases name.word? with
        | none => rw [items_place language state spot "" "" third whole]
        | some name =>
          cases keyword.word? with
          | none => rw [items_place language state spot "" "" third whole]
          | some word =>
            rw [items_place language state spot name word third whole]
            simp only [stands.itemLoop state language name word line]
            split <;> rfl

end Loops

theorem typeOf : typeOf tokens (.of state) i = placed i (Lowering.typeOf state spot) := by
  rw [Placed.typeOf, nextFrom?_eq, stands.ahead, Lowering.typeOf]
  cases found : ahead? spot.rest with
  | none =>
    simp only [Option.map_none, Option.filter_none, stands.fail]
    rfl
  | some first =>
    obtain ⟨here, behind⟩ := ahead?_place stands.ahead found
    obtain ⟨inside, same⟩ := List.getElem?_eq_some_iff.mp here
    obtain ⟨-, more, path⟩ := memberPath_eq first.rest
    simp only [Option.map_some, Option.filter_some, wordAt?, here, Option.bind_some]
    cases first.token.word? with
    | none =>
      simp only [Option.isSome_none, Bool.false_eq_true, ↓reduceIte, stands.fail]
      rfl
    | some name =>
      have operand : tokens.drop (i + 1 + first.passed)
          = (first.token :: memberPath first.rest) ++ more := by
        rw [List.drop_eq_getElem_cons inside, same, behind, List.cons_append, ← path]
      have stop : memberEnd tokens (i + 1 + first.passed + 1)
          = i + 1 + first.passed + (first.token :: memberPath first.rest).length := by
        rw [memberEnd_eq, behind, List.length_cons]
        omega
      have place : i + 1 + first.passed + (first.token :: memberPath first.rest).length
          = i + 1 + (first.passed + (first.token :: memberPath first.rest).length) := by omega
      simp only [Option.isSome_some, ↓reduceIte, stop, (slice_drop inside.le operand).1, bind, Except.bind]
      simp only [Draft.of_emit, place, stands.skip]
      rfl

theorem newError : newError tokens (.of state) i = placed i (Lowering.newError state spot) := by
  rw [Placed.newError, nextFrom?_eq, stands.ahead, Lowering.newError]
  simp only [stands.fail]
  cases found : ahead? spot.rest with
  | none => rfl
  | some first =>
    obtain ⟨here, behind⟩ := ahead?_place stands.ahead found
    simp only [Option.map_some, Option.filter_some, wordAt?, here, Option.bind_some]
    cases first.token.word?.map isErrorName == some true with
    | false => rfl
    | true =>
      simp only [↓reduceIte, nextSign?_eq, behind]
      cases aheadSign? first.rest "(" with
      | none => rfl
      | some opening =>
        have place : i + 1 + first.passed + 1 + opening.passed
            = i + 1 + (first.passed + 1 + opening.passed) := by omega
        simp only [Option.map_some, place, stands.skip]
        rfl

theorem command (word : String) :
    command tokens (.of state) i word = placed i (Lowering.command state spot word) := by
  simp only [Placed.command, nextOnLine?_eq, stands.ahead, Lowering.command, stands.line,
    Draft.of_emit, Draft.of_push]
  cases found : aheadOnLine? spot.rest with
  | none =>
    simp only [Option.map_none]
    split <;> rfl
  | some next =>
    have here := (ahead?_place stands.ahead (Option.filter_eq_some_iff.mp found).1).1
    simp only [Option.map_some, signAt?, here, Option.bind_some, sign?_beq]
    split <;> rfl

theorem name (language : Language) (word : String) :
    name language tokens (.of state) i word = placed i (.ok (Lowering.name language state spot word)) := by
  have plain : (if (Draft.of state).callables.contains word
        && (Placed.nextSign? tokens (i + 1) "(").isSome then
      (pure ((Draft.of state).emit s!"{word}.call", i + 1) : Move)
    else pure ((Draft.of state).emit word, i + 1))
      = placed i (.ok (if state.callables.contains word && nextIs spot.rest "(" then
          (state.emit s!"{word}.call", 0) else (state.emit word, 0))) := by
    have opens : (Placed.nextSign? tokens (i + 1) "(").isSome = nextIs spot.rest "(" := by
      rw [stands.nextSign?, Option.isSome_map, nextIs]
    simp only [opens, Draft.of_callables, Draft.of_emit]
    rw [placed_ok_ite]
    rfl
  rw [Placed.name, Lowering.name]
  cases language with
  | groovy => exact plain
  | javaScript =>
    simp only [beq_self_eq_true, ↓reduceIte]
    rw [stands.nextSign?]
    cases found : aheadSign? spot.rest "=>" with
    | none => exact plain
    | some arrow =>
      obtain ⟨front, parts, long, -⟩ := arrow_ahead found
      have body := stands.arrowBody state word parts
      have place : i + front.length = i + 1 + arrow.passed := by omega
      have between : spot.rest.take (arrow.passed + 1) = front := by rw [← long, take_front parts]
      rw [place] at body
      simp only [Option.map_some, between]
      exact body

/-- A condition, whose parentheses are left to come, or else a name. -/
theorem conditionOrName (language : Language) (word : String) :
    (match if word == "if" || word == "while" then Placed.nextSign? tokens (i + 1) "(" else none with
      | some opening =>
        pure (Placed.skip tokens ((Draft.of state).emit s!"{word} truthy") (i + 1) opening, opening)
      | none => Placed.name language tokens (.of state) i word)
      = placed i (match if word == "if" || word == "while" then aheadSign? spot.rest "(" else none with
        | some opening =>
          .ok (Lowering.skip (state.emit s!"{word} truthy") (spot.rest.take opening.passed),
            opening.passed)
        | none => .ok (Lowering.name language state spot word)) := by
  rw [stands.nextSign?, stands.name]
  cases word == "if" || word == "while" with
  | false => rfl
  | true =>
    simp only [↓reduceIte]
    cases aheadSign? spot.rest "(" with
    | none => rfl
    | some opening =>
      simp only [Option.map_some, Draft.of_emit, stands.skip]
      rfl

theorem keyword (language : Language) (word : String) :
    keyword language tokens (.of state) i word = placed i (Lowering.keyword language state spot word) := by
  unfold Placed.keyword Lowering.keyword
  rw [stands.conditionOrName]
  simp only [stands.fail, stands.function, stands.forLoop, stands.typeOf, stands.newError, stands.command,
    Draft.of_emit, placed_ite]
  rfl

theorem rest_getElem? (n : Nat) : tokens[i + 1 + n]? = spot.rest[n]? := by
  rw [← stands.ahead, List.getElem?_drop]

theorem boundCall? (word : String) (afterDot : Bool) :
    boundCall? tokens i word afterDot = Lowering.boundCall? word afterDot spot.rest := by
  have one := stands.rest_getElem? 0
  have two := stands.rest_getElem? 1
  have three := stands.rest_getElem? 2
  simp only [Placed.boundCall?, wordAt?, signAt?, one, two, three]
  rcases spot.rest with _ | ⟨opening, _ | ⟨argument, _ | ⟨closing, more⟩⟩⟩
  · rfl
  · rfl
  · simp only [List.getElem?_cons_zero, List.getElem?_cons_succ, List.getElem?_nil, Option.bind_some]
    cases argument.word? <;> simp [Lowering.boundCall?]
  · simp only [List.getElem?_cons_zero, List.getElem?_cons_succ, Option.bind_some, sign?_beq]
    rfl

theorem stringMethod? (language : Language) (word : String) :
    stringMethod? language tokens i word = .ok (Lowering.stringMethod? language word spot.rest) := by
  rw [Placed.stringMethod?, stands.nextSign?, Lowering.stringMethod?]
  cases found : aheadSign? spot.rest "(" with
  | none => rfl
  | some opening =>
    obtain ⟨-, behind⟩ := aheadSign?_place stands.ahead found
    simp only [Option.map_some, nextFrom?_eq, behind]
    cases next : ahead? opening.rest with
    | none => rfl
    | some argument =>
      have here := (ahead?_place behind next).1
      simp only [Option.map_some, fetch_eq here, bind, Except.bind]
      rfl

theorem word (language : Language) (text : String) :
    word language tokens (.of state) i text = placed i (Lowering.word language state spot text) := by
  have afterDot : spot.afterDot = spot.lastIsSign [".", "?."] := rfl
  simp only [Placed.word, Lowering.word, stands.lastIsSign, stands.boundCall?, stands.stringMethod?,
    stands.keyword, Draft.of_emit, bind, Except.bind, afterDot]
  cases if ["expect", "equal", "equals"].contains text = true then
      Lowering.boundCall? text (spot.lastIsSign [".", "?."]) spot.rest else none with
  | some call => rfl
  | none =>
    simp only [placed_ite]
    rfl

end Stands

end ApiProbe.Script.Placed
