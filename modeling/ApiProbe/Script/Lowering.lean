import ApiProbe.Script.Language
import ApiProbe.Script.Literal

/-!
Lowering of JavaScript and Groovy to the plain script language. The tokens of a script are taken
from left to right and written out again, most of them as they are; what the plain language says in
another way is put differently. Line ends stay where they are, so that lines keep their numbers.
-/
namespace ApiProbe.Script.Lowering

/-- What has been written so far: pieces up to behind the last meaningful one, and the blanks,
comments and line ends after it, both last piece first. -/
structure Output where
  done : List String
  loose : List String

namespace Output

def empty : Output := ⟨[], []⟩

/-- Writes a meaningful piece. -/
def emit (output : Output) (text : String) : Output :=
  ⟨text :: (output.loose ++ output.done), []⟩

/-- Writes a piece without meaning. -/
def pad (output : Output) (text : String) : Output := { output with loose := text :: output.loose }

/-- Puts a piece directly behind the last meaningful one. -/
def attach (output : Output) (text : String) : Output := { output with done := text :: output.done }

/-- All pieces, last one first. -/
def pieces (output : Output) : List String := output.loose ++ output.done

def text (output : Output) : String := String.join output.pieces.reverse

/-- Blanks that stay on their line. -/
def isInline (piece : String) : Bool := Text.isBlankText piece && !piece.toList.contains '\n'

/-- Takes back a closing parenthesis that only inline blanks follow. -/
def reopen? (output : Output) : Option Output :=
  match output.pieces.dropWhile isInline with
  | last :: before => if last == ")" then some ⟨before, []⟩ else none
  | [] => none

/-- True if the last piece that is not blank ends with an opening parenthesis. -/
def endsOpen (output : Output) : Bool :=
  match output.pieces.find? fun piece => !Text.isBlankText piece with
  | some piece => piece.toList.getLast? == some '('
  | none => false

end Output

inductive FrameKind
  | block | closure | function | object | paren | bracket | map | command
  deriving Repr, DecidableEq

/-- A bracket that is open: what closes it, and the line it is on. -/
structure Frame where
  kind : FrameKind
  close : String
  line : Nat
  deriving Repr, DecidableEq

structure State where
  output : Output
  frames : List Frame
  /-- Names that hold functions. -/
  callables : List String
  /-- The bracket that was closed last. -/
  lastClosed : Option FrameKind

namespace State

def start : State := ⟨.empty, [], [], none⟩

def emit (state : State) (text : String) : State :=
  { state with output := state.output.emit text }

def pad (state : State) (text : String) : State := { state with output := state.output.pad text }

def push (state : State) (kind : FrameKind) (close : String) (line : Nat) : State :=
  { state with frames := ⟨kind, close, line⟩ :: state.frames }

def addCallable (state : State) : Option String → State
  | some name => { state with callables := name :: state.callables }
  | none => state

/-- Closes the commands that are open, innermost first. -/
def closeCommandsIn (output : Output) : List Frame → Output × List Frame
  | [] => (output, [])
  | frame :: rest =>
    if frame.kind == .command then closeCommandsIn (output.attach frame.close) rest
    else (output, frame :: rest)

def closeCommands (state : State) : State :=
  let (output, frames) := closeCommandsIn state.output state.frames
  { state with output, frames }

/-- True where statements stand. -/
def inStatements (state : State) : Bool :=
  match state.frames with
  | [] => true
  | frame :: _ =>
    frame.kind == .block || frame.kind == .closure || frame.kind == .function

def inCommand (state : State) : Bool := (state.frames.head?.map Frame.kind) == some .command

end State

/-- A token with what stands before it, nearest first, and what follows. -/
structure Spot where
  before : List Token
  token : Token
  rest : List Token

/-- The new state, and the number of tokens taken besides the first. -/
abbrev Step := Except SyntaxError (State × Nat)

/-- A meaningful token: the number of tokens passed on the way to it, and what follows it. -/
structure Ahead where
  passed : Nat
  token : Token
  rest : List Token

def ahead? : List Token → Option Ahead
  | [] => none
  | token :: rest =>
    if token.isMeaningful then some ⟨0, token, rest⟩
    else (ahead? rest).map fun found => { found with passed := found.passed + 1 }

/-- The next meaningful token, if it is that sign. -/
def aheadSign? (tokens : List Token) (sign : String) : Option Ahead :=
  (ahead? tokens).filter fun found => found.token.isSign sign

def nextIs (tokens : List Token) (sign : String) : Bool := (aheadSign? tokens sign).isSome

def meaningful (tokens : List Token) : List Token := tokens.filter Token.isMeaningful

namespace Spot

/-- The nearest meaningful token before the spot. -/
def last? (spot : Spot) : Option Token := spot.before.find? Token.isMeaningful

def lastIsSign (spot : Spot) (texts : List String) : Bool :=
  match spot.last?.bind Token.sign? with
  | some text => texts.contains text
  | none => false

def lastIsWord (spot : Spot) (texts : List String) : Bool :=
  match spot.last?.bind Token.word? with
  | some text => texts.contains text
  | none => false

/-- True if a line end stands between the spot and the last meaningful token. -/
def onNewLine (spot : Spot) : Bool :=
  (spot.before.takeWhile fun token => !token.isMeaningful).any fun token => token.kind == .newline

def fail {α : Type} (spot : Spot) (fault : SyntaxFault) : Except SyntaxError α :=
  .error ⟨fault, spot.token.line⟩

def afterDot (spot : Spot) : Bool := spot.lastIsSign [".", "?."]

/-- The name of the variable that a declaration in front of the spot gives a value. -/
def declaredName? (spot : Spot) : Option String :=
  match meaningful spot.before with
  | sign :: name :: keyword :: _ =>
    if sign.isSign "=" && (keyword.word?.map (["let", "const", "var", "def"].contains ·)) == some true
    then name.word? else none
  | _ => none

def atStatementStart (spot : Spot) : Bool :=
  spot.last?.isNone || spot.lastIsSign [";", "\x7b", "\x7d"] || spot.onNewLine

end Spot

def isOpening (token : Token) : Bool := token.isSign "(" || token.isSign "[" || token.isSign "\x7b"

def isClosing (token : Token) : Bool := token.isSign ")" || token.isSign "]" || token.isSign "\x7d"

/-- Splits at the bracket that closes `depth` open ones, of whatever kind: what stands before it,
and what follows it. -/
def splitClosing? (depth : Nat) : List Token → Option (List Token × Token × List Token)
  | [] => none
  | token :: rest =>
    let keep (depth : Nat) :=
      (splitClosing? depth rest).map fun (inner, last, after) => (token :: inner, last, after)
    if isOpening token then keep (depth + 1)
    else if isClosing token then
      if depth ≤ 1 then some ([], token, rest) else keep (depth - 1)
    else keep depth

/-- Walks back over brackets to the one that opens `depth` closed ones; gives what is before it. -/
def beforeOpening? (depth : Nat) : List Token → Option (List Token)
  | [] => none
  | token :: rest =>
    if isClosing token then beforeOpening? (depth + 1) rest
    else if isOpening token then
      if depth ≤ 1 then some rest else beforeOpening? (depth - 1) rest
    else beforeOpening? depth rest

/-- The text of a token where it is written without regard to its surroundings. -/
def plainText : Kind → String
  | .word text | .number text | .space text | .comment text | .sign text => text
  | .quoted body _ => String.ofList (Literal.quote body)
  | .template body => String.ofList (Literal.template body)
  | .regex pattern flags => String.ofList (Literal.regex pattern flags)
  | .newline => "\n"

/-- Line ends inside a token that is left out. -/
def lineEnds : Kind → Nat
  | .newline => 1
  | .comment text => text.toList.count '\n'
  | .template body => body.count '\n'
  | _ => 0

/-- Leaves tokens out; their line ends stay. -/
def skip (state : State) (tokens : List Token) : State :=
  tokens.foldl (fun state token =>
    (List.range (lineEnds token.kind)).foldl (fun state _ => state.pad "\n") state) state

def isRendered (token : Token) : Bool :=
  match token.kind with
  | .newline | .comment _ => false
  | _ => true

/-- Tokens on one line, without comments. -/
def render (tokens : List Token) : String :=
  Text.trim (String.join ((tokens.filter isRendered).map fun token => plainText token.kind))

def openWords : List String :=
  ["else", "do", "try", "finally", "let", "const", "var", "def", "function", "new", "typeof", "in",
    "of", "instanceof"]

/-- Whether a statement may end with a token. -/
def endsStatement (state : State) : Kind → Bool
  | .word text => !openWords.contains text
  | .number _ | .quoted .. | .template _ | .regex .. => true
  | .sign text =>
    [")", "]", "++", "--"].contains text
      || (text == "\x7d" && (state.lastClosed == some .object || state.lastClosed == some .closure
        || state.lastClosed == some .map))
  | _ => false

def joiningSigns : List String :=
  [".", "?.", ")", "]", "\x7d", ",", "+", "-", "*", "/", "%", "&&", "||", "&", "|", "==", "!=", "===",
    "!==", "<", ">", "<=", ">=", "??", "?:", "?", ":", "=", "+=", "-=", "*=", "/=", "%=", "=>", "->"]

/-- Whether a token carries on the statement of the line before. -/
def continues : Kind → Bool
  | .sign text => joiningSigns.contains text
  | .word text => ["else", "catch", "finally"].contains text
  | _ => false

/-- Whether a statement ends with a line. -/
def needsSemicolon (state : State) (spot : Spot) : Bool :=
  match spot.last?, ahead? spot.rest with
  | some last, some next =>
    !spot.onNewLine && state.inStatements && endsStatement state last.kind
      && !continues next.token.kind
  | _, _ => false

def lineEnd (state : State) (spot : Spot) : State :=
  let closed := state.closeCommands
  let ended :=
    if needsSemicolon closed spot then { closed with output := closed.output.attach ";" } else closed
  ended.pad "\n"

/-- Names of properties that the plain language needs for words of its own. -/
def renamed (word : String) : String :=
  match word with
  | "true" => "is_true"
  | "false" => "is_false"
  | "null" => "is_null"
  | "undefined" => "is_undefined"
  | "match" => "matches"
  | "with" => "with_"
  | "new" => "new_"
  | "default" => "default_"
  | other => other

/-- Names of string methods, which differ with the argument: whether it is a regular expression, and
whether that is to be replaced everywhere. -/
def stringMethod? (language : Language) (word : String) (rest : List Token) : Option String :=
  match aheadSign? rest "(" with
  | none => none
  | some opening =>
    let everywhere :=
      match (ahead? opening.rest).map fun found => found.token.kind with
      | some (.regex _ flags) => some (flags.contains 'g')
      | _ => none
    match language, word, everywhere with
    | .javaScript, "replace", some false => some "replaceRegex"
    | .javaScript, "replace", some true => some "replaceRegexAll"
    | .javaScript, "replaceAll", some _ => some "replaceRegexAll"
    | .groovy, "replace", _ => some "replaceAll"
    | .groovy, "replaceAll", _ => some "replaceRegexAll"
    | .groovy, "replaceFirst", _ => some "replaceRegex"
    | _, _, _ => none

def constantWords : List String :=
  ["null", "undefined", "true", "false", "this", "NaN", "Infinity"]

/-- A call with one bare name as its argument hands over that name, too. -/
def boundCall? (word : String) (afterDot : Bool) (rest : List Token) : Option String :=
  match rest with
  | opening :: argument :: closing :: _ =>
    match argument.word? with
    | some name =>
      if opening.isSign "(" && closing.isSign ")" && !constantWords.contains name then
        if word == "expect" then some s!"expectBound({name}, \"{name}\")"
        else if afterDot then some s!"equalBound({name}, \"{name}\")"
        else none
      else none
    | none => none
  | _ => none

/-- Names of parameters, separated by commas. -/
def parameters (inner : List Token) : Except SyntaxError (List String) :=
  match inner with
  | [] => .ok []
  | token :: rest =>
    match token.kind with
    | .word name => (parameters rest).map (name :: ·)
    | kind =>
      if kind == .sign "," || !kind.isMeaningful then parameters rest
      else .error ⟨.plainParameters, token.line⟩

/-- The head of a function without a name, from its parameters on; `between` is what stands from
there up to the arrow and `after` what follows the arrow. -/
def arrowBody (state : State) (spot : Spot) (names : String) (between after : List Token) :
    State × Nat :=
  let known := state.addCallable spot.declaredName?
  match aheadSign? after "\x7b" with
  | some brace =>
    let opened := known.emit (s!"|{names}| " ++ "\x7b")
    let skipped := skip opened (between ++ after.take brace.passed)
    (skipped.push .closure "\x7d" brace.token.line, between.length + brace.passed + 1)
  | none => (skip (known.emit s!"|{names}|") between, between.length)

/-- The name of a function, if it has one, and the parenthesis in front of its parameters. -/
def functionStart (spot : Spot) : Except SyntaxError (Option String × Ahead) :=
  match ahead? spot.rest with
  | none => spot.fail .functionIncomplete
  | some first =>
    let name := first.token.word?
    let opening :=
      if name.isNone then some first
      else (ahead? first.rest).map fun next =>
        { next with passed := first.passed + 1 + next.passed }
    match opening with
    | none => spot.fail .functionIncomplete
    | some opening =>
      if opening.token.isSign "(" then .ok (name, opening) else spot.fail .functionParenthesis

/-- A function with its head written. One with a name that starts a statement is a declaration. -/
def functionOpened (state : State) (spot : Spot) (name : Option String) (names : String) : State :=
  let anonymous :=
    ((state.addCallable spot.declaredName?).emit (s!"|{names}| " ++ "\x7b")).push
      .closure "\x7d" spot.token.line
  match name with
  | some name =>
    if spot.atStatementStart then
      ((state.emit (s!"let {name} = " ++ (s!"|{names}| " ++ "\x7b"))).addCallable (some name)).push
        .function "\x7d;" spot.token.line
    else anonymous
  | none => anonymous

/-- A function, named or not. -/
def function (state : State) (spot : Spot) : Step := do
  let (name, opening) ← functionStart spot
  let some (inner, _, after) := splitClosing? 1 opening.rest
    | .error ⟨.unclosed, opening.token.line⟩
  let names := ", ".intercalate (← parameters inner)
  let some brace := aheadSign? after "\x7b" | spot.fail .functionBody
  let taken := opening.passed + 1 + inner.length + 1 + brace.passed
  pure (skip (functionOpened state spot name names) (spot.rest.take taken), taken + 1)

/-- Splits at the first semicolon. -/
def splitSemicolon? : List Token → Option (List Token × List Token)
  | [] => none
  | token :: rest =>
    if token.isSign ";" then some ([], rest)
    else (splitSemicolon? rest).map fun (before, after) => (token :: before, after)

/-- What follows the first meaningful tokens of a list. -/
def dropMeaningful : Nat → List Token → List Token
  | 0, tokens => tokens
  | n + 1, tokens =>
    match ahead? tokens with
    | some found => dropMeaningful n found.rest
    | none => []

/-- Whether the last part of a counting loop adds one to its variable. -/
def countsUp (name : String) : List Token → Bool
  | [a, b] => (a.isWord name && b.isSign "++") || (a.isSign "++" && b.isWord name)
  | [a, b, c] => a.isWord name && b.isSign "+=" && c.kind == .number "1"
  | _ => false

/-- The range up to a bound that a comparison with it stands for. -/
def rangeSign? (relation : Token) : Option String :=
  if relation.isSign "<" then some ".." else if relation.isSign "<=" then some "..=" else none

/-- The head of a loop that counts up by one, as a loop over a range. `inner` is what stands in the
parentheses behind any keyword of declaration. -/
def countingHead? (inner : List Token) : Option String := do
  let (initial, afterInitial) ← splitSemicolon? inner
  let (condition, step) ← splitSemicolon? afterInitial
  let name ← (ahead? initial).bind fun found => found.token.word?
  let _ ← (meaningful initial)[1]?.filter fun token => token.isSign "="
  let tested ← (ahead? condition).bind fun found => found.token.word?
  let range ← (meaningful condition)[1]?.bind rangeSign?
  if tested == name && countsUp name (meaningful step) then
    let first := render (dropMeaningful 2 initial)
    let last := render (dropMeaningful 2 condition)
    some s!"for {name} in ({first}){range}({last})"
  else none

def isDeclaring (token : Token) : Bool :=
  (token.word?.map (["let", "const", "var", "def"].contains ·)) == some true

/-- The head of a loop without a keyword of declaration. `inner` is what stands in the parentheses. -/
def loopHead (inner : List Token) : List Token :=
  let declared := ((meaningful inner).head?.map isDeclaring) == some true
  if declared then dropMeaningful 1 inner else inner

/-- A loop that counts. `inner` is what stands in its parentheses. -/
def countingLoop (state : State) (spot : Spot) (opening : Ahead) (inner : List Token) : Step :=
  match countingHead? (loopHead inner) with
  | some text =>
    let taken := opening.passed + 1 + inner.length + 1
    .ok (skip (state.emit text) (spot.rest.take taken), taken)
  | none => spot.fail .loopForm

/-- A loop over items, or over keys, which JavaScript has `in` for. The items are left to come. -/
def itemLoop (language : Language) (state : State) (spot : Spot) (opening : Ahead)
    (inner : List Token) (name word : String) : State × Nat :=
  let begun := state.emit s!"for {name} in "
  let opened :=
    if word == "in" && language == .javaScript then
      (begun.emit "(").push .paren ").keys()" opening.token.line
    else begun.push .paren "" opening.token.line
  let body := dropMeaningful 2 (loopHead inner)
  let blanks := ((ahead? body).map Ahead.passed).getD 0
  let taken := opening.passed + 1 + (inner.length - body.length) + blanks
  (skip opened (spot.rest.take taken), taken)

/-- A loop: over items, over keys, or counting. -/
def forLoop (language : Language) (state : State) (spot : Spot) : Step :=
  match aheadSign? spot.rest "(" with
  | none => .ok (state.emit "for", 0)
  | some opening =>
    match splitClosing? 1 opening.rest with
    | none => .error ⟨.unclosed, opening.token.line⟩
    | some (inner, _, _) =>
      match meaningful (loopHead inner) with
      | name :: keyword :: _ :: _ =>
        match name.word?, keyword.word? with
        | some name, some word =>
          if word == "of" || word == "in" then
            .ok (itemLoop language state spot opening inner name word)
          else countingLoop state spot opening inner
        | _, _ => countingLoop state spot opening inner
      | _ => countingLoop state spot opening inner

/-- The points and names that directly follow an operand. -/
def memberPath : List Token → List Token
  | point :: name :: rest =>
    if point.isSign "." && name.word?.isSome then point :: name :: memberPath rest else []
  | _ => []

def typeOf (state : State) (spot : Spot) : Step :=
  match (ahead? spot.rest).filter fun found => found.token.word?.isSome with
  | none => spot.fail .typeofOperand
  | some first =>
    let operand := first.token :: memberPath first.rest
    let taken := first.passed + operand.length
    .ok (skip (state.emit s!"typeof({render operand})") (spot.rest.take taken), taken)

def isErrorName (name : String) : Bool :=
  "Error".toList.reverse.isPrefixOf name.toList.reverse || name == "Exception"

/-- A new error is what stands in its parentheses. -/
def newError (state : State) (spot : Spot) : Step :=
  match (ahead? spot.rest).filter fun found => (found.token.word?.map isErrorName) == some true with
  | none => spot.fail .newOperand
  | some name =>
    match aheadSign? name.rest "(" with
    | none => spot.fail .newOperand
    | some opening =>
      let taken := name.passed + 1 + opening.passed
      .ok (skip state (spot.rest.take taken), taken)

/-- The next meaningful token of the same line. -/
def aheadOnLine? (tokens : List Token) : Option Ahead :=
  (ahead? tokens).filter fun found =>
    !((tokens.take found.passed).any fun token => token.kind == .newline)

/-- A command of Groovy may leave out the parentheses around its arguments. -/
def command (state : State) (spot : Spot) (word : String) : Step :=
  let begun := state.emit word
  match aheadOnLine? spot.rest with
  | some next =>
    if next.token.isSign "(" then .ok (begun, 0)
    else .ok ((begun.emit "(").push .command ")" spot.token.line, next.passed)
  | none => .ok (if word == "println" then begun.emit "()" else begun, 0)

def commandWords : List String := ["println", "print", "assert"]

/-- A word that is neither a property nor a keyword. -/
def name (language : Language) (state : State) (spot : Spot) (word : String) : State × Nat :=
  match if language == .javaScript then aheadSign? spot.rest "=>" else none with
  | some arrow =>
    arrowBody state spot word (spot.rest.take (arrow.passed + 1)) arrow.rest
  | none =>
    if state.callables.contains word && nextIs spot.rest "(" then (state.emit s!"{word}.call", 0)
    else (state.emit word, 0)

def keyword (language : Language) (state : State) (spot : Spot) (word : String) : Step :=
  if ["let", "const", "var", "def"].contains word then .ok (state.emit "let", 0)
  else if word == "null" || word == "undefined" then .ok (state.emit "()", 0)
  else if word == "async" || word == "await" then spot.fail .asyncCode
  else if word == "class" then spot.fail .classCode
  else if word == "function" && language == .javaScript then function state spot
  else if word == "for" then forLoop language state spot
  else if word == "typeof" && language == .javaScript then typeOf state spot
  else if word == "new" then newError state spot
  else if commandWords.contains word && language == .groovy then command state spot word
  else
    match if word == "if" || word == "while" then aheadSign? spot.rest "(" else none with
    | some opening =>
      .ok (skip (state.emit s!"{word} truthy") (spot.rest.take opening.passed), opening.passed)
    | none => .ok (name language state spot word)

def word (language : Language) (state : State) (spot : Spot) (text : String) : Step :=
  let bound := if ["expect", "equal", "equals"].contains text then
    boundCall? text spot.afterDot spot.rest else none
  match bound with
  | some call => .ok (state.emit call, 3)
  | none =>
    if spot.afterDot then
      .ok (state.emit ((stringMethod? language text spot.rest).getD (renamed text)), 0)
    else keyword language state spot text

/-- Whether brackets hold entries of a map: a colon stands in them, other brackets aside. -/
def holdsEntries (depth : Nat) : List Token → Bool
  | [] => false
  | token :: rest =>
    if isOpening token then holdsEntries (depth + 1) rest
    else if isClosing token then holdsEntries (depth - 1) rest
    else (token.isSign ":" && depth == 0) || holdsEntries depth rest

/-- The empty map of Groovy: a colon alone in brackets. The number is that of the tokens taken. -/
def emptyMap? (rest : List Token) : Option Nat := do
  let colon ← aheadSign? rest ":"
  let last ← aheadSign? colon.rest "]"
  some (colon.passed + 1 + last.passed + 1)

def openBracket (language : Language) (state : State) (spot : Spot) : Step :=
  if language == .groovy then
    match emptyMap? spot.rest with
    | some taken =>
      let skipped := skip (state.emit "#\x7b\x7d") (spot.rest.take taken)
      .ok ({ skipped with lastClosed := some .map }, taken)
    | none =>
      match splitClosing? 1 spot.rest with
      | none => spot.fail .unclosed
      | some (inner, _, _) =>
        if holdsEntries 0 inner then .ok ((state.emit "#\x7b").push .map "\x7d" spot.token.line, 0)
        else .ok ((state.emit "[").push .bracket "]" spot.token.line, 0)
  else .ok ((state.emit "[").push .bracket "]" spot.token.line, 0)

def openParen (language : Language) (state : State) (spot : Spot) : Step :=
  let plain : State × Nat := ((state.emit "(").push .paren ")" spot.token.line, 0)
  if language == .groovy then .ok plain
  else
    match splitClosing? 1 spot.rest with
    | none => spot.fail .unclosed
    | some (inner, _, after) =>
      match aheadSign? after "=>" with
      | none => .ok plain
      | some arrow => do
        let names := ", ".intercalate (← parameters inner)
        let between := spot.rest.take (inner.length + 1 + arrow.passed + 1)
        pure (arrowBody state spot names between arrow.rest)

/-- Words in front of parentheses that a block follows. -/
def blockOwners : List String := ["if", "for", "while", "catch", "switch", "synchronized"]

/-- Whether a brace of Groovy opens a block of statements. -/
def opensBlock (spot : Spot) : Bool :=
  spot.last?.isNone || spot.lastIsSign [";", "\x7b", "\x7d"]
    || spot.lastIsWord ["else", "try", "finally", "do"]
    || (spot.lastIsSign [")"] &&
      match beforeOpening? 0 spot.before with
      | some before =>
        match (before.find? Token.isMeaningful).bind Token.word? with
        | some owner => blockOwners.contains owner
        | none => false
      | none => false)

/-- The parameters of a closure and the number of tokens up to behind its arrow, if it has one. The
tokens that have meaning come with their places. -/
def closureHead? (names : List String) : List (Token × Nat) → Option (List String × Nat)
  | (first, place) :: rest =>
    if first.isSign "->" then some (names.reverse, place + 1)
    else
      match first.word?, rest with
      | some name, (sign, signPlace) :: more =>
        if sign.isSign "," then closureHead? (name :: names) more
        else if sign.isSign "->" then some ((name :: names).reverse, signPlace + 1)
        else none
      | _, _ => none
  | [] => none

/-- Whether a closure speaks of its unnamed parameter. `last` is the meaningful token before. -/
def usesIt (last : Token) : List Token → Bool
  | [] => false
  | token :: rest =>
    (token.isWord "it" && !(last.isSign "." || last.isSign "?."))
      || usesIt (if token.isMeaningful then token else last) rest

/-- The names of a closure's parameters and the number of tokens that hold them. `inner` is what
stands in its braces. -/
def closureParameters (spot : Spot) (inner : List Token) : String × Nat :=
  match closureHead? [] (inner.zipIdx.filter fun entry => entry.1.isMeaningful) with
  | some (names, taken) => (", ".intercalate names, taken)
  | none => (if usesIt spot.token inner then "it" else "", 0)

/-- True behind a word that may name a function. -/
def behindName (spot : Spot) : Bool :=
  match spot.last?.bind Token.word? with
  | some word => word != "return" && word != "in"
  | none => false

/-- A closure with its head written. Behind a call it is the last argument, behind a name the only
one. -/
def closureOpened (state : State) (spot : Spot) (head : String) : State :=
  let line := spot.token.line
  match if spot.lastIsSign [")"] then state.output.reopen? else none with
  | some output =>
    let separator := if output.endsOpen then "" else ", "
    (({ state with output }).emit (separator ++ head)).push .closure "\x7d)" line
  | none =>
    if behindName spot then (state.emit ("(" ++ head)).push .closure "\x7d)" line
    else ((state.addCallable spot.declaredName?).emit head).push .closure "\x7d" line

def closure (state : State) (spot : Spot) : Step :=
  match splitClosing? 1 spot.rest with
  | none => spot.fail .unclosed
  | some (inner, _, _) =>
    let (names, taken) := closureParameters spot inner
    let opened := closureOpened state spot (s!"|{names}| " ++ "\x7b")
    .ok (skip opened (spot.rest.take taken), taken)

def objectSigns : List String := ["=", "(", ",", ":", "[", "?", "??", "||", "&&"]

def openBrace (language : Language) (state : State) (spot : Spot) : Step :=
  if language == .groovy then
    if opensBlock spot then .ok ((state.emit "\x7b").push .block "\x7d" spot.token.line, 0)
    else closure state spot
  else if spot.lastIsSign objectSigns || spot.lastIsWord ["return"] then
    .ok ((state.emit "#\x7b").push .object "\x7d" spot.token.line, 0)
  else .ok ((state.emit "\x7b").push .block "\x7d" spot.token.line, 0)

/-- Whether a closing bracket fits what is open. -/
def fits (sign : String) (kind : FrameKind) : Bool :=
  if sign == "\x7d" then
    kind == .block || kind == .closure || kind == .function || kind == .object
  else if sign == ")" then kind == .paren
  else kind == .bracket || kind == .map

def close (state : State) (spot : Spot) (sign : String) : Step :=
  let closed := state.closeCommands
  match closed.frames with
  | [] => spot.fail (.unexpected sign)
  | frame :: frames =>
    if fits sign frame.kind then
      .ok (({ closed with frames, lastClosed := some frame.kind }).emit frame.close, 0)
    else spot.fail (.unbalanced sign)

/-- A step up or down by one stands behind its variable. -/
def stepSign (state : State) (spot : Spot) (sign : String) : Step :=
  if (spot.last?.bind Token.word?).isSome || spot.lastIsSign [")", "]"] then
    .ok (state.emit (if sign == "++" then " += 1" else " -= 1"), 0)
  else spot.fail (.stepInFront sign)

def sign (language : Language) (state : State) (spot : Spot) (text : String) : Step :=
  match text with
  | "===" => .ok (state.emit "==", 0)
  | "!==" => .ok (state.emit "!=", 0)
  | "\x7b" => openBrace language state spot
  | "(" => openParen language state spot
  | "[" => openBracket language state spot
  | "\x7d" | ")" | "]" => close state spot text
  | ";" => .ok (state.closeCommands.emit ";", 0)
  | "++" | "--" => stepSign state spot text
  | "/=" => spot.fail .divideAssign
  | "=>" | "->" => spot.fail (.unexpected text)
  | _ =>
    if language == .groovy && text == ".." then .ok (state.emit "..=", 0)
    else if language == .groovy && text == "..<" then .ok (state.emit "..", 0)
    else if language == .groovy && text == "?:" then .ok (state.emit "??", 0)
    else if text == ":" && state.inCommand then .ok (state.emit ",", 0)
    else .ok (state.emit text, 0)

/-- Digits of Groovy may carry letters for their type. -/
def numberText (language : Language) (text : String) : String :=
  let chars := text.toList
  let hexadecimal := ['0', 'x'].isPrefixOf chars || ['0', 'X'].isPrefixOf chars
  if language == .groovy && !hexadecimal then
    String.ofList (chars.reverse.dropWhile fun c => "LlGgDdFf".toList.contains c).reverse
  else text

def step (language : Language) (state : State) (spot : Spot) : Step :=
  match spot.token.kind with
  | .newline => .ok (lineEnd state spot, 0)
  | .space text | .comment text => .ok (state.pad text, 0)
  | .quoted body quote =>
    let text :=
      if language == .groovy && quote == '"' then Literal.withDollars body else Literal.quote body
    .ok (state.emit (String.ofList text), 0)
  | .number text => .ok (state.emit (numberText language text), 0)
  | .template _ | .regex .. => .ok (state.emit (plainText spot.token.kind), 0)
  | .word text => word language state spot text
  | .sign text => sign language state spot text

/-- Takes tokens to the end. `before` holds those taken already, last one first. -/
def steps (language : Language) (state : State) (before : List Token) (tokens : List Token) :
    Except SyntaxError State :=
  match tokens with
  | [] => .ok state
  | token :: rest =>
    match step language state ⟨before, token, rest⟩ with
    | .error error => .error error
    | .ok (next, taken) =>
      steps language next ((rest.take taken).reverse ++ token :: before) (rest.drop taken)
termination_by tokens.length
decreasing_by
  simp only [List.length_drop, List.length_cons]
  omega

/-- The script in the plain language. -/
def lower (language : Language) (script : String) : Except SyntaxError String := do
  let state ← steps language .start [] (← tokens script)
  let closed := state.closeCommands
  match closed.frames with
  | [] => pure closed.output.text
  | frame :: _ => throw ⟨.unclosed, frame.line⟩

end ApiProbe.Script.Lowering
