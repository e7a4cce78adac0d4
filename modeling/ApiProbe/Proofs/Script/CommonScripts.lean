import ApiProbe.Proofs.Script.Frames
import ApiProbe.Proofs.Script.Requoting
import ApiProbe.Proofs.Script.SourceLines
import Mathlib.Data.List.Chain

/-!
Scripts that say the same in JavaScript and in the plain language. No token of them is put differently,
their brackets are nested and their statements end with a semicolon where their lines end, so nothing is
left for the lowering to do. Each step writes its token as it is spelled, and the whole is the script.
-/
namespace ApiProbe.Script.Lowering

/-- Words that are put differently or begin something that is. -/
def turnedWords : List String :=
  ["const", "var", "def", "null", "undefined", "async", "await", "class", "function", "for", "typeof",
    "new", "if", "while", "expect", "equal", "equals"]

/-- Signs that are put differently, refused, or begin something that is put differently. -/
def turnedSigns : List String := ["===", "!==", "\x7b", "\x7d", "++", "--", "/", "/=", "=>", "->"]

/-- Names of properties that are put differently. -/
def renamedNames : List String :=
  ["true", "false", "null", "undefined", "match", "with", "new", "default"]

/-- Tokens that both languages have. -/
def isCommon : Kind → Bool
  | .number _ | .space _ | .comment _ | .newline => true
  | .quoted body quote => quote == '"' && !body.contains '\\'
  | .word text => !turnedWords.contains text
  | .sign text => !turnedSigns.contains text
  | .template _ | .regex .. => false

def isDot (token : Token) : Bool := token.isSign "." || token.isSign "?."

/-- The lines on which something meaningful stands, without what has no meaning. -/
def meaningfulLines (tokens : List Token) : List (List Token) :=
  ((tokens.splitOnP fun token => token.kind == .newline).map meaningful).filter fun line => !line.isEmpty

/-- Scripts that both languages have. -/
structure Common (tokens : List Token) : Prop where
  kinds : ∀ token ∈ tokens, isCommon token.kind = true
  nested : Nested (marks tokens)
  /-- No name behind a dot is one that is put differently. -/
  names : (meaningful tokens).IsChain fun dot name =>
    isDot dot = true → ∀ text ∈ name.word?, text ∉ renamedNames
  /-- All lines but the last one end with a semicolon. -/
  ended : ∀ line ∈ (meaningfulLines tokens).dropLast,
    line.getLast?.map Token.kind = some (.sign ";")

instance (tokens : List Token) : Decidable (Common tokens) :=
  decidable_of_iff
    ((∀ token ∈ tokens, isCommon token.kind = true) ∧ Nested (marks tokens) ∧
      ((meaningful tokens).IsChain fun dot name =>
        isDot dot = true → ∀ text ∈ name.word?, text ∉ renamedNames) ∧
      ∀ line ∈ (meaningfulLines tokens).dropLast, line.getLast?.map Token.kind = some (.sign ";"))
    ⟨fun ⟨kinds, nested, names, ended⟩ => ⟨kinds, nested, names, ended⟩,
      fun common => ⟨common.kinds, common.nested, common.names, common.ended⟩⟩

section Output
variable {output : Output} {text : String}

theorem Output.text_emit : (output.emit text).text = output.text ++ text := by
  simp [Output.text, Output.emit, Output.pieces, String.join_append, String.append_assoc]

theorem Output.text_pad : (output.pad text).text = output.text ++ text := by
  simp [Output.text, Output.pad, Output.pieces, String.join_append, String.append_assoc]

end Output

/-- The sign that closes a bracket. -/
def closingSign : Bracket → String
  | .round => ")"
  | .square => "]"
  | .curly => "\x7d"

theorem eq_closingSign {text : String} {shape : Bracket}
    (closing : signMark? text = some (.closes shape)) : text = closingSign shape := by
  unfold signMark? at closing
  split at closing <;> cases closing <;> rfl

/-- Frames that close with the bracket that closes them in the script. -/
def IsPlain (frame : Frame) : Prop :=
  frame.kind = .paren ∧ frame.close = ")" ∨ frame.kind = .bracket ∧ frame.close = "]"

theorem IsPlain.exists_shape {frame : Frame} (plain : IsPlain frame) :
    ∃ shape, frame.kind.shape? = some shape ∧ frame.close = closingSign shape ∧
      fits frame.close frame.kind = true := by
  rcases plain with ⟨kind, close⟩ | ⟨kind, close⟩
  · exact ⟨.round, by rw [kind]; rfl, close, by rw [kind, close]; rfl⟩
  · exact ⟨.square, by rw [kind]; rfl, close, by rw [kind, close]; rfl⟩

/-- Nothing has been written but the tokens that were taken, nearest first. -/
structure Copied (state : State) (before : List Token) : Prop where
  text : state.output.text.toList = sourceText before.reverse
  callables : state.callables = []
  frames : ∀ frame ∈ state.frames, IsPlain frame

namespace Copied
variable {state : State} {before : List Token} {token : Token} {text : String}

theorem start : Copied .start [] := ⟨rfl, rfl, fun _ member => by cases member⟩

theorem sourceText_behind (before : List Token) (token : Token) :
    sourceText (token :: before).reverse = sourceText before.reverse ++ token.kind.spelling := by
  simp [sourceText]

theorem emit (copied : Copied state before) (spells : text.toList = token.kind.spelling) :
    Copied (state.emit text) (token :: before) where
  text := by
    rw [sourceText_behind, State.emit, Output.text_emit, String.toList_append, copied.text, spells]
  callables := copied.callables
  frames := copied.frames

theorem pad (copied : Copied state before) (spells : text.toList = token.kind.spelling) :
    Copied (state.pad text) (token :: before) where
  text := by
    rw [sourceText_behind, State.pad, Output.text_pad, String.toList_append, copied.text, spells]
  callables := copied.callables
  frames := copied.frames

theorem push {kind : FrameKind} {close : String} {line : Nat} (copied : Copied state before)
    (plain : IsPlain ⟨kind, close, line⟩) : Copied (state.push kind close line) before where
  text := copied.text
  callables := copied.callables
  frames := List.forall_mem_cons.mpr ⟨plain, copied.frames⟩

theorem not_command (copied : Copied state before) {frame : Frame} (open_ : frame ∈ state.frames) :
    (frame.kind == .command) = false := by
  rcases copied.frames frame open_ with ⟨kind, -⟩ | ⟨kind, -⟩ <;> rw [kind] <;> rfl

/-- No command is open. -/
theorem closeCommands (copied : Copied state before) : state.closeCommands = state := by
  have none_ : State.closeCommandsIn state.output state.frames = (state.output, state.frames) := by
    cases frames : state.frames with
    | nil => rfl
    | cons frame rest =>
      rw [State.closeCommandsIn, copied.not_command (by simp [frames])]
      rfl
  rw [State.closeCommands, none_]

theorem inCommand (copied : Copied state before) : state.inCommand = false := by
  unfold State.inCommand
  cases frames : state.frames with
  | nil => rfl
  | cons frame rest =>
    have open_ : frame ∈ state.frames := by simp [frames]
    simpa using copied.not_command open_

/-- A bracket that closes the innermost open one is what its frame closes with. -/
theorem closes {shape : Bracket} {below : List Bracket} (copied : Copied state before)
    (held : state.held = shape :: below) (closing : signMark? text = some (.closes shape)) :
    ∃ frame frames, state.frames = frame :: frames ∧ frame.close = text ∧ fits text frame.kind = true ∧
      frames.filterMap (fun frame => frame.kind.shape?) = below := by
  cases open_ : state.frames with
  | nil =>
    rw [State.held, open_] at held
    cases held
  | cons frame frames =>
    rw [State.held, open_] at held
    obtain ⟨own, is, close, fitting⟩ := (copied.frames frame (by simp [open_])).exists_shape
    have top : (frame :: frames).filterMap (fun frame => frame.kind.shape?)
        = own :: frames.filterMap fun frame => frame.kind.shape? := List.filterMap_cons_some is
    obtain ⟨rfl, behind⟩ := List.cons.inj (top.symm.trans held)
    obtain rfl : frame.close = text := close.trans (eq_closingSign closing).symm
    exact ⟨frame, frames, rfl, rfl, fitting, behind⟩

theorem frames_eq_nil (copied : Copied state before) (held : state.held = []) : state.frames = [] := by
  rw [State.held, List.filterMap_eq_nil_iff] at held
  rw [List.eq_nil_iff_forall_not_mem]
  intro frame member
  obtain ⟨shape, is, -, -⟩ := (copied.frames frame member).exists_shape
  rw [held frame member] at is
  cases is

end Copied

section Ahead
variable {tokens : List Token}

/-- An open bracket that is closed somewhere is found closed. -/
theorem exists_splitClosing? {depth : Nat} {held : List Bracket} (some_ : 0 < depth)
    (deep : depth ≤ held.length) (closed : scan held (marks tokens) = some []) :
    ∃ found, splitClosing? depth tokens = some found := by
  induction tokens generalizing depth held with
  | nil =>
    obtain rfl : held = [] := by simpa [marks] using closed
    simp at deep
    omega
  | cons token rest ih =>
    simp only [splitClosing?]
    split
    · rename_i opening
      obtain ⟨shape, mark⟩ := mark?_of_isOpening opening
      rw [marks_cons_of_some mark, scan_opens] at closed
      have deeper : depth + 1 ≤ (shape :: held).length := by simpa using deep
      obtain ⟨found, is⟩ := ih (Nat.succ_pos depth) deeper closed
      exact ⟨_, by rw [is]; rfl⟩
    rename_i noOpening
    split
    · rename_i closing
      obtain ⟨shape, mark⟩ := mark?_of_isClosing closing
      rw [marks_cons_of_some mark] at closed
      obtain ⟨below, rfl, behind⟩ := scan_closes_eq_some closed
      split
      · exact ⟨_, rfl⟩
      · rename_i several
        have left : 0 < depth - 1 := by omega
        have above : depth - 1 ≤ below.length := by
          rw [List.length_cons] at deep
          omega
        obtain ⟨found, is⟩ := ih left above behind
        exact ⟨_, by rw [is]; rfl⟩
    · rename_i noClosing
      rw [marks_cons_of_none (mark?_eq_none (Bool.eq_false_iff.mpr noOpening)
        (Bool.eq_false_iff.mpr noClosing))] at closed
      obtain ⟨found, is⟩ := ih some_ deep closed
      exact ⟨_, by rw [is]; rfl⟩

/-- A sign that no token is does not come next. -/
theorem aheadSign?_absent {sign : String} (absent : ∀ token ∈ tokens, token.kind ≠ .sign sign) :
    aheadSign? tokens sign = none := by
  refine Option.eq_none_iff_forall_ne_some.mpr fun found is => ?_
  obtain ⟨passed, parts, -, -, sign⟩ := aheadSign?_eq is
  exact absent found.token (by rw [parts]; simp) (Token.kind_of_isSign sign)

end Ahead

/-- Without backslashes nothing in a string is an escape, and no quote is inside. -/
theorem requote_eq_self {body : List Char} (is : QuotedBody '"' body) (noEscape : '\\' ∉ body) :
    Literal.requote body = body := by
  induction is with
  | nil => rfl
  | escape => exact absurd List.mem_cons_self noEscape
  | @plain c rest apart _ open_ _ ih =>
    rw [requote_plain apart, if_neg (by simpa using open_),
      ih fun member => noEscape (List.mem_cons_of_mem c member)]

/-- What is known of a place in a script that both languages have. -/
structure CommonSpot (spot : Spot) : Prop where
  own : isCommon spot.token.kind = true
  rest : ∀ token ∈ spot.rest, isCommon token.kind = true
  body : ∀ body quote, spot.token.kind = .quoted body quote → QuotedBody quote body
  name : spot.afterDot = true → ∀ text ∈ spot.token.word?, text ∉ renamedNames
  ended : spot.token.kind = .newline → (ahead? spot.rest).isSome = true →
    ∀ last ∈ spot.last?, last.kind = .sign ";"

/-- The tokens close the brackets that are open. -/
def ClosedBy (state : State) (tokens : List Token) : Prop := scan state.held (marks tokens) = some []

/-- The token of the spot has been taken, alone, and written as it is spelled. -/
def CopiesToken (spot : Spot) (done : Step) : Prop :=
  ∃ next, done = .ok (next, 0) ∧ Copied next (spot.token :: spot.before) ∧ ClosedBy next spot.rest

namespace CommonSpot
variable {state : State} {spot : Spot} {text : String}

theorem noArrow (common : CommonSpot spot) : aheadSign? spot.rest "=>" = none := by
  apply aheadSign?_absent
  intro token member is
  have kind := common.rest token member
  rw [is] at kind
  exact absurd kind (by decide)

theorem lineEnd (common : CommonSpot spot) (kind : spot.token.kind = .newline)
    (copied : Copied state spot.before) : Lowering.lineEnd state spot = state.pad "\n" := by
  have complete : needsSemicolon state spot = false := by
    unfold needsSemicolon
    split
    · rename_i last next lastIs nextIs
      have semicolon := common.ended kind (by rw [nextIs]; rfl) last lastIs
      simp [semicolon, endsStatement]
    · rfl
  rw [Lowering.lineEnd, copied.closeCommands]
  simp only [complete, Bool.false_eq_true, if_false]

/-- Names of methods differ in front of a regular expression only. -/
theorem stringMethod? (common : CommonSpot spot) (word : String) :
    Lowering.stringMethod? .javaScript word spot.rest = none := by
  unfold Lowering.stringMethod?
  split
  · rfl
  · rename_i opening found
    obtain ⟨passed, parts, -, -, -⟩ := aheadSign?_eq found
    have noPattern (pattern flags : List Char) :
        (ahead? opening.rest).map (fun found => found.token.kind) ≠ some (.regex pattern flags) := by
      intro is
      obtain ⟨argument, next, kind⟩ := Option.map_eq_some_iff.mp is
      obtain ⟨gap, parts', -, -, -⟩ := ahead?_eq next
      have plain := common.rest argument.token (by rw [parts, parts']; simp)
      rw [kind] at plain
      cases plain
    split
    · rename_i pattern flags is
      exact absurd is (noPattern pattern flags)
    · simp only

theorem renamed_eq (unnamed : text ∉ renamedNames) : renamed text = text := by
  unfold renamed
  split
  case h_9 => rfl
  all_goals exact absurd (by decide) unnamed

/-- Words are written as they are. -/
theorem word (common : CommonSpot spot) (kind : spot.token.kind = .word text)
    (copied : Copied state spot.before) :
    Lowering.word .javaScript state spot text = .ok (state.emit text, 0) := by
  have own := common.own
  rw [kind] at own
  have other : text ∉ turnedWords := by simpa [isCommon] using own
  simp only [turnedWords, List.mem_cons, List.not_mem_nil, or_false, not_or] at other
  have plain : Lowering.name .javaScript state spot text = (state.emit text, 0) := by
    simp [Lowering.name, common.noArrow, copied.callables]
  unfold Lowering.word
  by_cases dot : spot.afterDot = true
  · have same := renamed_eq (common.name dot text (by simp [Token.word?, kind]))
    simp [other, dot, common.stringMethod? text, same]
  · by_cases declares : text = "let"
    · subst declares
      simp [dot, keyword]
    · simp [other, dot, keyword, declares, commandWords, plain]

theorem closes_of_none (none_ : spot.token.mark? = none)
    (closes : ClosedBy state (spot.token :: spot.rest)) : ClosedBy state spot.rest := by
  rwa [ClosedBy, marks_cons_of_none none_] at closes

theorem mark?_of_kind (kind : spot.token.kind = .sign text) : spot.token.mark? = signMark? text :=
  mark?_of_isSign (beq_iff_eq.mpr kind)

/-- What follows an opening bracket closes it, too. -/
theorem closes_behind {shape : Bracket} (kind : spot.token.kind = .sign text)
    (opening : signMark? text = some (.opens shape)) (closes : ClosedBy state (spot.token :: spot.rest)) :
    scan (shape :: state.held) (marks spot.rest) = some [] := by
  rwa [ClosedBy, marks_cons_of_some ((mark?_of_kind kind).trans opening), scan_opens] at closes

theorem openParen (common : CommonSpot spot) (kind : spot.token.kind = .sign "(")
    (copied : Copied state spot.before) (closes : ClosedBy state (spot.token :: spot.rest)) :
    CopiesToken spot (Lowering.openParen .javaScript state spot) := by
  have inside : scan (.round :: state.held) (marks spot.rest) = some [] := closes_behind kind rfl closes
  obtain ⟨⟨inner, last, after⟩, encloses⟩ := exists_splitClosing? Nat.one_pos (by simp) inside
  obtain ⟨parts, -⟩ := splitClosing?_eq encloses
  have noArrow : aheadSign? after "=>" = none := by
    apply aheadSign?_absent
    intro token member is
    have plain := common.rest token (by rw [parts]; simp [member])
    rw [is] at plain
    exact absurd plain (by decide)
  refine ⟨(state.emit "(").push .paren ")" spot.token.line, ?_, ?_, ?_⟩
  · simp [Lowering.openParen, encloses, noArrow]
  · exact (copied.emit (by rw [kind]; rfl)).push (.inl ⟨rfl, rfl⟩)
  · rwa [ClosedBy, State.held_push _ rfl, State.held_emit]

theorem openBracket (kind : spot.token.kind = .sign "[") (copied : Copied state spot.before)
    (closes : ClosedBy state (spot.token :: spot.rest)) :
    CopiesToken spot (Lowering.openBracket .javaScript state spot) := by
  have inside : scan (.square :: state.held) (marks spot.rest) = some [] := closes_behind kind rfl closes
  refine ⟨(state.emit "[").push .bracket "]" spot.token.line, rfl, ?_, ?_⟩
  · exact (copied.emit (by rw [kind]; rfl)).push (.inr ⟨rfl, rfl⟩)
  · rwa [ClosedBy, State.held_push _ rfl, State.held_emit]

/-- Brackets close what they have to close. -/
theorem close {shape : Bracket} (kind : spot.token.kind = .sign text)
    (closing : signMark? text = some (.closes shape)) (copied : Copied state spot.before)
    (closes : ClosedBy state (spot.token :: spot.rest)) :
    CopiesToken spot (Lowering.close state spot text) := by
  rw [ClosedBy, marks_cons_of_some ((mark?_of_kind kind).trans closing)] at closes
  obtain ⟨below, held, behind⟩ := scan_closes_eq_some closes
  obtain ⟨frame, frames, open_, same, fitting, left⟩ := copied.closes held closing
  have popped : Copied { state with frames, lastClosed := some frame.kind } spot.before :=
    ⟨copied.text, copied.callables, fun frame member => copied.frames frame (by simp [open_, member])⟩
  have spells : frame.close.toList = spot.token.kind.spelling := by
    rw [kind, same]
    rfl
  refine ⟨_, ?_, popped.emit spells, ?_⟩
  · rw [Lowering.close, copied.closeCommands, open_]
    simp only [fitting, if_true]
  · rw [ClosedBy, State.held_emit, State.held, left]
    exact behind

/-- Signs are written as they are. -/
theorem sign (common : CommonSpot spot) (kind : spot.token.kind = .sign text)
    (copied : Copied state spot.before) (closes : ClosedBy state (spot.token :: spot.rest)) :
    CopiesToken spot (Lowering.sign .javaScript state spot text) := by
  have own := common.own
  rw [kind] at own
  have emits (noBracket : signMark? text = none) : CopiesToken spot (.ok (state.emit text, 0)) :=
    ⟨state.emit text, rfl, copied.emit (by rw [kind]; rfl),
      closes_of_none ((mark?_of_kind kind).trans noBracket) closes⟩
  unfold Lowering.sign
  split
  case h_4 => exact common.openParen kind copied closes
  case h_5 => exact openBracket kind copied closes
  case h_7 => exact close kind rfl copied closes
  case h_8 => exact close kind rfl copied closes
  case h_9 =>
    rw [copied.closeCommands]
    exact emits rfl
  case h_15 =>
    have noBracket : signMark? text = none := by
      unfold signMark?
      split <;> first | rfl | contradiction
    simpa [copied.inCommand] using emits noBracket
  all_goals exact absurd own (by decide)

/-- Strings keep their quotes, and what stands in them. -/
theorem quote_spelling {body : List Char} {quote : Char} (common : CommonSpot spot)
    (kind : spot.token.kind = .quoted body quote) :
    Literal.quote body = spot.token.kind.spelling := by
  have own := common.own
  rw [kind] at own
  simp only [isCommon, Bool.and_eq_true, beq_iff_eq, Bool.not_eq_true', List.contains_eq_mem,
    decide_eq_false_iff_not] at own
  obtain ⟨rfl, noEscape⟩ := own
  rw [kind, Literal.quote, requote_eq_self (common.body body '"' kind) noEscape]
  rfl

/-- A token that both languages have is written as it is spelled. -/
theorem step (common : CommonSpot spot) (copied : Copied state spot.before)
    (closes : ClosedBy state (spot.token :: spot.rest)) :
    CopiesToken spot (Lowering.step .javaScript state spot) := by
  have own := common.own
  unfold Lowering.step
  have behind (noSign : spot.token.sign? = none) : ClosedBy state spot.rest :=
    closes_of_none (by rw [Token.mark?, noSign]; rfl) closes
  cases kind : spot.token.kind with
  | newline =>
    refine ⟨_, rfl, ?_, ?_⟩
    · rw [common.lineEnd kind copied]
      exact copied.pad (by rw [kind]; rfl)
    · rw [common.lineEnd kind copied]
      exact behind (by rw [Token.sign?, kind])
  | space text | comment text =>
    exact ⟨_, rfl, copied.pad (by rw [kind]; rfl), behind (by rw [Token.sign?, kind])⟩
  | quoted body quote =>
    refine ⟨_, rfl, copied.emit ?_, behind (by rw [Token.sign?, kind])⟩
    rw [← common.quote_spelling kind]
    simp
  | number text =>
    exact ⟨_, rfl, copied.emit (by rw [kind]; rfl), behind (by rw [Token.sign?, kind])⟩
  | word text =>
    exact ⟨_, common.word kind copied, copied.emit (by rw [kind]; rfl), behind (by rw [Token.sign?, kind])⟩
  | sign text => exact common.sign kind copied closes
  | template | regex =>
    rw [kind] at own
    cases own

end CommonSpot

section Lines
variable {tokens front rest : List Token} {token : Token}

/-- Lines without meaning and what has no meaning in the others are left out. -/
theorem flatten_meaningfulLines (tokens : List Token) :
    (meaningfulLines tokens).flatten = meaningful tokens := by
  have lines : meaningful (tokens.splitOnP fun token => token.kind == .newline).flatten
      = meaningful tokens := by
    induction tokens with
    | nil => rfl
    | cons token rest ih =>
      rw [List.splitOnP_cons_eq_if_modifyHead]
      split
      · rename_i newline
        have plain : token.isMeaningful = false := by
          rw [Token.isMeaningful, beq_iff_eq.mp newline]
          rfl
        simpa [meaningful, plain] using ih
      · obtain ⟨line, lines, parts⟩ := List.exists_cons_of_ne_nil
          (List.splitOnP_ne_nil (fun token : Token => token.kind == .newline) rest)
        rw [parts] at ih ⊢
        simp only [meaningful, List.flatten_cons, List.modifyHead_cons, List.cons_append,
          List.filter_cons] at ih ⊢
        rw [ih]
  rw [meaningfulLines, List.flatten_filter_not_isEmpty, ← lines]
  exact List.filter_flatten.symm

theorem meaningfulLines_append (newline : token.kind = .newline) :
    meaningfulLines (front ++ token :: rest) = meaningfulLines front ++ meaningfulLines rest := by
  simp only [meaningfulLines]
  rw [List.splitOnP_append_cons front rest (by simp [newline]), List.map_append, List.filter_append]

/-- The last thing with meaning is at the end of the last line that has some. -/
theorem exists_lastLine {last : Token} (is : (meaningful tokens).getLast? = some last) :
    ∃ lines line, meaningfulLines tokens = lines ++ [line] ∧ line.getLast? = some last := by
  rw [← flatten_meaningfulLines] at is
  rcases List.eq_nil_or_concat (meaningfulLines tokens) with none_ | ⟨lines, line, parts⟩
  · rw [none_] at is
    cases is
  · have some_ : line ≠ [] := by
      have member : line ∈ meaningfulLines tokens := by simp [parts]
      simpa using (List.mem_filter.mp member).2
    refine ⟨lines, line, by simpa using parts, ?_⟩
    rw [parts, List.concat_eq_append, List.flatten_append, List.flatten_singleton,
      List.getLast?_append_of_ne_nil _ some_] at is
    exact is

/-- What stands before a line end, if something is left, is the end of a statement. -/
theorem Common.ends {last : Token} (common : Common (front ++ token :: rest))
    (newline : token.kind = .newline) (is : (meaningful front).getLast? = some last)
    (more : meaningful rest ≠ []) : last.kind = .sign ";" := by
  obtain ⟨lines, line, parts, ends⟩ := exists_lastLine is
  have others : meaningfulLines rest ≠ [] := by
    intro none_
    rw [← flatten_meaningfulLines, none_] at more
    exact more rfl
  have ended := common.ended
  rw [meaningfulLines_append newline, parts, List.dropLast_append_of_ne_nil others] at ended
  have semicolon := ended line (by simp)
  simpa [ends] using semicolon

/-- What stands behind a dot is not renamed. -/
theorem Common.behindDot {dot : Token} (common : Common (front ++ token :: rest))
    (is : (meaningful front).getLast? = some dot) (sign : isDot dot = true) {text : String}
    (word : token.word? = some text) : text ∉ renamedNames := by
  obtain ⟨before, parts⟩ := List.getLast?_eq_some_iff.mp is
  have meant : token.isMeaningful = true := by
    rw [Token.isMeaningful, Token.kind_of_word? word]
    rfl
  have names := common.names
  rw [meaningful_append, parts, meaningful, List.filter_cons_of_pos meant, List.append_assoc,
    List.singleton_append, List.isChain_append_cons_cons] at names
  exact names.2.1 sign text word

/-- The nearest token with meaning is the last one of those before. -/
theorem getLast?_of_last? {spot : Spot} {last : Token} (is : spot.last? = some last) :
    (meaningful spot.before.reverse).getLast? = some last := by
  rwa [meaningful, List.filter_reverse, List.getLast?_reverse, List.head?_filter]

theorem exists_dot {spot : Spot} (behind : spot.afterDot = true) :
    ∃ dot, spot.last? = some dot ∧ isDot dot = true := by
  unfold Spot.afterDot Spot.lastIsSign at behind
  split at behind
  · rename_i text found
    obtain ⟨dot, is, sign⟩ := Option.bind_eq_some_iff.mp found
    refine ⟨dot, is, ?_⟩
    unfold Token.sign? at sign
    split at sign
    · cases sign
      rename_i kind
      simpa [isDot, Token.isSign, kind] using behind
    · cases sign
  · cases behind

/-- Strings hold what can stand between their quotes. -/
def WellQuoted (tokens : List Token) : Prop :=
  ∀ token ∈ tokens, ∀ body quote, token.kind = .quoted body quote → QuotedBody quote body

/-- What is known of every place in a script that both languages have. -/
theorem Common.spot {before : List Token} (common : Common (before.reverse ++ token :: rest))
    (quoted : WellQuoted (before.reverse ++ token :: rest)) : CommonSpot ⟨before, token, rest⟩ where
  own := common.kinds token (by simp)
  rest := fun other member => common.kinds other (by simp [member])
  body := quoted token (by simp)
  name := by
    intro behind text word
    obtain ⟨dot, is, sign⟩ := exists_dot behind
    exact common.behindDot (getLast?_of_last? is) sign word
  ended := by
    intro newline more last is
    obtain ⟨found, next⟩ := Option.isSome_iff_exists.mp more
    obtain ⟨passed, parts, -, -, meant⟩ := ahead?_eq next
    have member : found.token ∈ rest := by
      change rest = _ at parts
      simp [parts]
    apply common.ends newline (getLast?_of_last? is)
    exact List.ne_nil_of_mem (List.mem_filter.mpr ⟨member, meant⟩)

end Lines

/-- Taken one by one, the tokens of a script that both languages have are written as they are. -/
theorem steps_copied {found before rest : List Token} {state : State} (common : Common found)
    (quoted : WellQuoted found) (parts : found = before.reverse ++ rest) (copied : Copied state before)
    (closes : ClosedBy state rest) :
    ∃ final, steps .javaScript state before rest = .ok final ∧ Copied final found.reverse ∧
      final.held = [] := by
  induction rest generalizing before state with
  | nil =>
    refine ⟨state, ?_, ?_, ?_⟩
    · rw [steps]
    · simpa [parts] using copied
    · simpa [ClosedBy, marks] using closes
  | cons token rest ih =>
    subst parts
    obtain ⟨next, done, copied, closes⟩ := (common.spot quoted).step copied closes
    rw [steps, done]
    exact ih (by simp) copied closes

/-- A script that both languages have is its own lowering. Its tokens are numbers, words that neither
are put differently nor begin anything that is, strings in double quotes without backslashes, nested
brackets, other signs, blanks and comments, and its lines end with semicolons, apart from the last one.
It has no carriage returns. -/
theorem lower_common {script : String} {found : List Token} (read : tokens script = .ok found)
    (noReturn : '\r' ∉ script.toList) (common : Common found) : lower .javaScript script = .ok script := by
  have quoted : WellQuoted found := fun token member body quote kind =>
    (tokens_quoted read member kind).2
  obtain ⟨final, done, copied, held⟩ := steps_copied common quoted rfl .start
    (nested_iff_scan.mp common.nested)
  have frames : final.frames = [] := copied.frames_eq_nil held
  have text : final.output.text = script := by
    apply String.toList_inj.mp
    rw [copied.text, List.reverse_reverse]
    exact (tokens_spelling read).eq noReturn
  rw [lower, read]
  simp only [bind, Except.bind, done, copied.closeCommands, frames, text]
  rfl

/-- The last line needs no semicolon, and lines without meaning need none. -/
theorem lower_common_calls :
    ∃ found, tokens "let a = b[0].c; // d\n\nf(a, \"x\")" = .ok found ∧
      '\r' ∉ "let a = b[0].c; // d\n\nf(a, \"x\")".toList ∧ Common found ∧
      lower .javaScript "let a = b[0].c; // d\n\nf(a, \"x\")" = .ok "let a = b[0].c; // d\n\nf(a, \"x\")" := by
  have read : tokens "let a = b[0].c; // d\n\nf(a, \"x\")" = .ok
      [⟨.word "let", 1⟩, ⟨.space " ", 1⟩, ⟨.word "a", 1⟩, ⟨.space " ", 1⟩, ⟨.sign "=", 1⟩, ⟨.space " ", 1⟩,
        ⟨.word "b", 1⟩, ⟨.sign "[", 1⟩, ⟨.number "0", 1⟩, ⟨.sign "]", 1⟩, ⟨.sign ".", 1⟩, ⟨.word "c", 1⟩,
        ⟨.sign ";", 1⟩, ⟨.space " ", 1⟩, ⟨.comment "// d", 1⟩, ⟨.newline, 1⟩, ⟨.newline, 2⟩, ⟨.word "f", 3⟩,
        ⟨.sign "(", 3⟩, ⟨.word "a", 3⟩, ⟨.sign ",", 3⟩, ⟨.space " ", 3⟩, ⟨.quoted ['x'] '"', 3⟩,
        ⟨.sign ")", 3⟩] := by decide +kernel
  refine ⟨_, read, ?noReturn, ?common, lower_common read ?noReturn ?common⟩
  case noReturn => decide
  case common => decide +kernel

end ApiProbe.Script.Lowering
