import ApiProbe.Proofs.Script.PlacedTokens
import ApiProbe.Proofs.Script.Frames
import Mathlib.Data.List.DropRight

/-!
What has been written, with a mark behind its last meaningful piece. A piece may be put at the mark,
in the middle of what has been written, and a closing parenthesis may be taken back; the mark never
goes beyond the end, since the pieces before it and behind it are those that the lowering keeps.
-/
namespace ApiProbe.Script.Placed
open Lowering

structure Draft where
  pieces : List String
  /-- The place behind the last meaningful piece. -/
  mark : Nat
  frames : List Frame
  callables : List String
  lastClosed : Option FrameKind

namespace Draft

def start : Draft := ⟨[], 0, [], [], none⟩

/-- Pieces can be put at the mark. -/
def Sound (draft : Draft) : Prop := draft.mark ≤ draft.pieces.length

/-- Writes a meaningful piece. -/
def emit (draft : Draft) (text : String) : Draft :=
  { draft with pieces := draft.pieces ++ [text], mark := draft.pieces.length + 1 }

/-- Writes a piece without meaning. -/
def pad (draft : Draft) (text : String) : Draft := { draft with pieces := draft.pieces ++ [text] }

/-- Puts a piece at the mark, which must not be beyond the end. -/
def insert (draft : Draft) (text : String) : Outcome Draft :=
  if draft.mark ≤ draft.pieces.length then
    .ok { draft with
      pieces := draft.pieces.take draft.mark ++ text :: draft.pieces.drop draft.mark,
      mark := draft.mark + 1 }
  else .error .crash

def push (draft : Draft) (kind : FrameKind) (close : String) (line : Nat) : Draft :=
  { draft with frames := ⟨kind, close, line⟩ :: draft.frames }

def addCallable (draft : Draft) : Option String → Draft
  | some name => { draft with callables := name :: draft.callables }
  | none => draft

/-- Closes the commands that are open, innermost first. -/
def closeCommandsIn (draft : Draft) : List Frame → Outcome Draft
  | [] => .ok { draft with frames := [] }
  | frame :: rest =>
    if frame.kind == .command then do closeCommandsIn (← draft.insert frame.close) rest
    else .ok { draft with frames := frame :: rest }

def closeCommands (draft : Draft) : Outcome Draft := closeCommandsIn draft draft.frames

/-- Takes back a closing parenthesis that only inline blanks follow. -/
def reopen? (draft : Draft) : Option Draft :=
  let kept := draft.pieces.rdropWhile Output.isInline
  if kept.getLast? == some ")" then
    some { draft with pieces := kept.dropLast, mark := kept.dropLast.length }
  else none

/-- True if the last piece that is not blank ends with an opening parenthesis. -/
def endsOpen (draft : Draft) : Bool :=
  (draft.pieces.reverse.find? fun piece => !Text.isBlankText piece).any fun piece =>
    piece.toList.getLast? == some '('

/-- The state of the lowering, what has been written aside. -/
def context (draft : Draft) : State := ⟨.empty, draft.frames, draft.callables, draft.lastClosed⟩

/-- A state of the lowering as a draft. -/
def of (state : State) : Draft :=
  ⟨state.output.pieces.reverse, state.output.done.length, state.frames, state.callables,
    state.lastClosed⟩

theorem of_sound (state : State) : (of state).Sound := by
  simp [of, Sound, Output.pieces]

/-- What is before the mark and what is behind it are all there is. -/
theorem exists_of {draft : Draft} (sound : draft.Sound) : ∃ state, of state = draft := by
  obtain ⟨pieces, mark, frames, callables, lastClosed⟩ := draft
  refine ⟨⟨⟨(pieces.take mark).reverse, (pieces.drop mark).reverse⟩, frames, callables, lastClosed⟩, ?_⟩
  simpa [of, Output.pieces, Sound] using sound

section Of
variable (state : State) (text : String)

@[simp] theorem of_frames : (of state).frames = state.frames := rfl
@[simp] theorem of_callables : (of state).callables = state.callables := rfl

@[simp] theorem of_emit : (of state).emit text = of (state.emit text) := by
  simp [of, emit, State.emit, Output.emit, Output.pieces, Nat.add_comm]

@[simp] theorem of_pad : (of state).pad text = of (state.pad text) := by
  simp [of, pad, State.pad, Output.pad, Output.pieces]

@[simp] theorem of_push (kind : FrameKind) (close : String) (line : Nat) :
    (of state).push kind close line = of (state.push kind close line) := rfl

@[simp] theorem of_addCallable (name : Option String) :
    (of state).addCallable name = of (state.addCallable name) := by
  cases name <;> rfl

/-- A piece is put between the pieces before the mark and those behind it. -/
theorem of_insert :
    (of state).insert text = .ok (of { state with output := state.output.attach text }) := by
  have sound : (of state).mark ≤ (of state).pieces.length := of_sound state
  rw [insert, if_pos sound]
  simp [of, Output.attach, Output.pieces]

theorem of_closeCommandsIn (frames : List Frame) :
    (of state).closeCommandsIn frames
      = .ok (of { state with
          output := (State.closeCommandsIn state.output frames).1,
          frames := (State.closeCommandsIn state.output frames).2 }) := by
  induction frames generalizing state with
  | nil => rfl
  | cons frame rest ih =>
    rw [closeCommandsIn, State.closeCommandsIn]
    split
    · rw [of_insert]
      exact ih _
    · rfl

theorem of_closeCommands : (of state).closeCommands = .ok (of state.closeCommands) :=
  of_closeCommandsIn state state.frames

theorem of_endsOpen : (of state).endsOpen = state.output.endsOpen := by
  rw [endsOpen, of, List.reverse_reverse, Output.endsOpen]
  cases state.output.pieces.find? fun piece => !Text.isBlankText piece <;> rfl

theorem of_reopen? :
    (of state).reopen? = state.output.reopen?.map fun output => of { state with output } := by
  simp only [reopen?, Output.reopen?, of, List.rdropWhile, List.reverse_reverse]
  cases state.output.pieces.dropWhile Output.isInline with
  | nil => rfl
  | cons last before =>
    simp only [List.getLast?_reverse, List.head?_cons, List.dropLast_reverse, List.tail_cons]
    by_cases closes : last = ")"
    · simp [closes, Output.pieces]
    · simp [closes]

end Of
end Draft

/-- Leaves out the tokens from one place up to another; their line ends stay. -/
def skip (tokens : List Token) (draft : Draft) (start stop : Nat) : Draft :=
  ((tokens.take stop).drop start).foldl (fun draft token =>
    (List.range (lineEnds token.kind)).foldl (fun draft _ => draft.pad "\n") draft) draft

/-- Whether a statement ends with a line. -/
def needsSemicolon (tokens : List Token) (draft : Draft) (i : Nat) : Outcome Bool := do
  let some last ← lastBefore? tokens i | pure false
  if ← breaksBetween tokens (last + 1) i then return false
  let token ← fetch tokens last
  if !(draft.context.inStatements && endsStatement draft.context token.kind) then return false
  match nextFrom? tokens (i + 1) with
  | some next => pure !continues (← fetch tokens next).kind
  | none => pure false

def lineEnd (tokens : List Token) (draft : Draft) (i : Nat) : Outcome Draft := do
  let closed ← draft.closeCommands
  let ended ← if ← needsSemicolon tokens closed i then closed.insert ";" else pure closed
  pure (ended.pad "\n")

/-- A place in the tokens as the lowering sees it. -/
structure Stands (tokens : List Token) (i : Nat) (spot : Spot) : Prop where
  whole : tokens = spot.before.reverse ++ spot.token :: spot.rest
  place : i = spot.before.length

namespace Stands
variable {tokens : List Token} {i : Nat} {spot : Spot} (stands : Stands tokens i spot)
include stands

theorem here : tokens[i]? = some spot.token := by
  rw [stands.whole, stands.place]
  exact getElem?_behind ..

theorem ahead : tokens.drop (i + 1) = spot.rest := by
  rw [stands.whole, stands.place, ← List.length_reverse]
  exact drop_front ..

theorem length : tokens.length = i + 1 + spot.rest.length := by
  rw [stands.whole, stands.place]
  simp
  omega

theorem line : lineAt tokens i = spot.token.line := by
  rw [lineAt, stands.here]
  rfl

theorem lastBefore? : lastBefore? tokens i = .ok ((ahead? spot.before).map (·.rest.length)) := by
  rw [stands.whole, stands.place]
  exact lastBefore?_eq ..

theorem lastToken? : lastToken? tokens i = .ok spot.last? := by
  rw [stands.whole, stands.place]
  exact lastToken?_eq ..

theorem lastIsSign (texts : List String) :
    lastIsSign tokens i texts = .ok (spot.lastIsSign texts) := by
  rw [Placed.lastIsSign, stands.lastToken?, Spot.lastIsSign]
  simp only [bind, Except.bind, pure, Except.pure]
  cases spot.last?.bind Token.sign? <;> rfl

theorem lastIsWord (texts : List String) :
    lastIsWord tokens i texts = .ok (spot.lastIsWord texts) := by
  rw [Placed.lastIsWord, stands.lastToken?, Spot.lastIsWord]
  simp only [bind, Except.bind, pure, Except.pure]
  cases spot.last?.bind Token.word? <;> rfl

/-- The last meaningful token stands where it is found. -/
theorem last {found : Ahead} (is : ahead? spot.before = some found) :
    ∃ after, Stands tokens found.rest.length ⟨found.rest, found.token, after⟩ := by
  obtain ⟨passed, -, -, -, parts⟩ := behind_place is (spot.token :: spot.rest)
  exact ⟨_, stands.whole.trans parts, rfl⟩

theorem breaksBetween {found : Ahead} (is : ahead? spot.before = some found) :
    breaksBetween tokens (found.rest.length + 1) i = .ok spot.onNewLine := by
  obtain ⟨passed, long, blank, before, parts⟩ := behind_place is (spot.token :: spot.rest)
  have meant := (ahead?_eq is).choose_spec.2.2.2
  have cut : slice tokens (found.rest.length + 1) i = .ok passed.reverse := by
    refine slice_eq (found.rest.reverse ++ [found.token]) (spot.token :: spot.rest) ?_
      (by simp) ?_
    · rw [stands.whole, parts]
      simp
    · rw [stands.place, before]
      simp
      omega
  have blanks : (passed ++ found.token :: found.rest).takeWhile (fun token => !token.isMeaningful)
      = passed := by
    rw [List.takeWhile_append_of_pos (by simpa [Blank] using blank)]
    simp [meant]
  rw [Placed.breaksBetween, cut, Spot.onNewLine, before, blanks]
  simp [bind, Except.bind, pure, Except.pure]

theorem atStatementStart : atStatementStart tokens i = .ok spot.atStatementStart := by
  rw [Placed.atStatementStart, stands.lastBefore?, Spot.atStatementStart, Spot.lastIsSign,
    Spot.last?, find?_ahead]
  cases is : ahead? spot.before with
  | none => rfl
  | some found =>
    obtain ⟨after, last⟩ := stands.last is
    simp only [Option.map_some, bind, Except.bind, signAt?, last.here, stands.breaksBetween is,
      Option.bind_some]
    cases found.token.sign? with
    | none => rfl
    | some text =>
      simp only [Option.any_some, Option.isNone_some, Bool.false_or]
      by_cases opens : [";", "\x7b", "\x7d"].contains text = true
      · rw [if_pos opens, opens]
        rfl
      · rw [if_neg opens, Bool.eq_false_iff.mpr opens]
        rfl

theorem declaredName? : declaredName? tokens i = .ok spot.declaredName? := by
  rw [Placed.declaredName?, stands.lastBefore?, Spot.declaredName?]
  cases one : ahead? spot.before with
  | none =>
    rw [ahead?_none one]
    rfl
  | some sign =>
    obtain ⟨_, stands⟩ := stands.last one
    rw [meaningful_ahead one]
    simp only [Option.map_some, bind, Except.bind, signAt?, stands.here, Option.bind_some,
      stands.lastBefore?, bne, sign?_beq]
    cases two : ahead? sign.rest with
    | none =>
      rw [ahead?_none two]
      simp [pure, Except.pure]
    | some name =>
      obtain ⟨_, stands⟩ := stands.last two
      rw [meaningful_ahead two]
      simp only [Option.map_some, stands.lastBefore?]
      cases three : ahead? name.rest with
      | none =>
        rw [ahead?_none three]
        simp [pure, Except.pure]
      | some keyword =>
        obtain ⟨_, stands'⟩ := stands.last three
        rw [meaningful_ahead three]
        simp only [Option.map_some, wordAt?, stands.here, stands'.here, Option.bind_some]
        cases sign.token.isSign "=" with
        | false => rfl
        | true =>
          cases keyword.token.word? with
          | none => rfl
          | some word =>
            by_cases declares : ["let", "const", "var", "def"].contains word = true
            · rw [Option.any_some, Bool.not_true, if_neg Bool.false_ne_true, if_pos declares,
                Option.map_some, declares]
              rfl
            · rw [Option.any_some, Bool.not_true, if_neg Bool.false_ne_true, if_neg declares,
                Option.map_some, Bool.eq_false_iff.mpr declares]
              rfl

/-- What the lowering leaves out behind a place. -/
theorem skip (state : State) (n : Nat) :
    skip tokens (.of state) (i + 1) (i + 1 + n) = .of (Lowering.skip state (spot.rest.take n)) := by
  have pads (state : State) (n : Nat) :
      (List.range n).foldl (fun draft _ => draft.pad "\n") (Draft.of state)
        = .of ((List.range n).foldl (fun state _ => state.pad "\n") state) := by
    induction List.range n generalizing state with
    | nil => rfl
    | cons _ more ih => rw [List.foldl_cons, List.foldl_cons, Draft.of_pad, ih]
  rw [Placed.skip, List.drop_take, Nat.add_sub_cancel_left, stands.ahead, Lowering.skip]
  induction spot.rest.take n generalizing state with
  | nil => rfl
  | cons token more ih => rw [List.foldl_cons, List.foldl_cons, pads, ih]

/-- Whether a statement ends is found without a crash. -/
theorem needsSemicolon (state : State) :
    needsSemicolon tokens (.of state) i = .ok (Lowering.needsSemicolon state spot) := by
  have same (kind : Kind) : endsStatement (Draft.of state).context kind
      = endsStatement state kind := by
    cases kind <;> rfl
  rw [Placed.needsSemicolon, stands.lastBefore?, Lowering.needsSemicolon, Spot.last?, find?_ahead]
  cases is : ahead? spot.before with
  | none => rfl
  | some found =>
    obtain ⟨after, last⟩ := stands.last is
    simp only [Option.map_some, bind, Except.bind, stands.breaksBetween is, fetch_eq last.here,
      same, nextFrom?_eq, stands.ahead]
    have context : (Draft.of state).context.inStatements = state.inStatements := rfl
    rw [context]
    cases next : ahead? spot.rest with
    | none =>
      cases spot.onNewLine <;> cases state.inStatements <;>
        cases endsStatement state found.token.kind <;> rfl
    | some follows =>
      simp only [Option.map_some, fetch_eq (ahead?_place stands.ahead next).1]
      cases spot.onNewLine <;> cases state.inStatements <;>
        cases endsStatement state found.token.kind <;> rfl

theorem lineEnd (state : State) :
    lineEnd tokens (.of state) i = .ok (.of (Lowering.lineEnd state spot)) := by
  rw [Placed.lineEnd, Draft.of_closeCommands]
  simp only [bind, Except.bind, stands.needsSemicolon, Lowering.lineEnd]
  split
  · rw [Draft.of_insert]
    simp [pure, Except.pure]
  · simp [pure, Except.pure]

end Stands
end ApiProbe.Script.Placed
