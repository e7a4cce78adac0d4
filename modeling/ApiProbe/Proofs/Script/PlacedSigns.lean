import ApiProbe.Proofs.Script.PlacedLowering
import ApiProbe.Proofs.Script.AlikeLookahead

/-!
Signs, read by place: brackets, whose other end is looked for, and what stands in them. With these, a
step from a place is the step of the lowering there.
-/
namespace ApiProbe.Script.Placed
open Lowering

theorem isMeaningful_of_isOpening {token : Token} (opens : isOpening token = true) :
    token.isMeaningful = true := by
  simp only [isOpening, Bool.or_eq_true] at opens
  rcases opens with (is | is) | is <;>
  · rw [Token.isMeaningful, Token.kind_of_isSign is]
    rfl

namespace Stands
variable {tokens : List Token} {i : Nat} {spot : Spot} (stands : Stands tokens i spot) (state : State)
include stands

theorem closing (opens : isOpening spot.token = true) :
    closing tokens i = match splitClosing? 1 spot.rest with
      | some (inner, _, _) => .ok (i + 1 + inner.length)
      | none => .error (.fault ⟨.unclosed, spot.token.line⟩) := by
  have found := closing_eq stands.here opens
  rw [stands.ahead] at found
  exact found

/-- What a bracket at this place encloses. -/
theorem enclosed {inner after : List Token} {closer : Token}
    (encloses : splitClosing? 1 spot.rest = some (inner, closer, after)) :
    slice tokens (i + 1) (i + 1 + inner.length) = .ok inner ∧
      tokens.drop (i + 1 + inner.length + 1) = after := by
  rw [← stands.ahead] at encloses
  obtain ⟨cut, -, behind⟩ := enclosed_places (by rw [stands.length]; omega) encloses
  exact ⟨cut, behind⟩

theorem emptyMap? :
    emptyMap? tokens i = (Lowering.emptyMap? spot.rest).map (i + 1 + ·) := by
  rw [Placed.emptyMap?, stands.nextSign?, Lowering.emptyMap?]
  cases found : aheadSign? spot.rest ":" with
  | none => rfl
  | some colon =>
    have behind := (aheadSign?_place stands.ahead found).2
    simp only [Option.map_some, bind, Option.bind_some, nextSign?_eq, behind]
    cases aheadSign? colon.rest "]" with
    | none => rfl
    | some last =>
      simp only [Option.map_some, Option.bind_some, Option.some.injEq]
      omega

theorem openBracket (language : Language) (opens : isOpening spot.token = true) :
    openBracket language tokens (.of state) i = placed i (Lowering.openBracket language state spot) := by
  rw [Placed.openBracket, Lowering.openBracket, placed_ite]
  simp only [stands.emptyMap?, stands.closing opens, stands.line, Draft.of_emit, Draft.of_push]
  cases Lowering.emptyMap? spot.rest with
  | some taken =>
    simp only [Option.map_some, stands.skip]
    rfl
  | none =>
    cases encloses : splitClosing? 1 spot.rest with
    | none => rfl
    | some found =>
      obtain ⟨inner, closer, after⟩ := found
      simp only [Option.map_none, bind, Except.bind, (stands.enclosed encloses).1, placed_ite]
      rfl

theorem openParen (language : Language) (opens : isOpening spot.token = true) :
    openParen language tokens (.of state) i = placed i (Lowering.openParen language state spot) := by
  rw [Placed.openParen, Lowering.openParen, placed_ite]
  simp only [stands.closing opens, stands.line, Draft.of_emit, Draft.of_push]
  cases encloses : splitClosing? 1 spot.rest with
  | none => rfl
  | some found =>
    obtain ⟨inner, closer, after⟩ := found
    obtain ⟨cut, behind⟩ := stands.enclosed encloses
    simp only [bind, Except.bind, nextSign?_eq, behind, parameters, cut]
    cases arrows : aheadSign? after "=>" with
    | none => rfl
    | some arrow =>
      obtain ⟨front, parts, long, -⟩ := arrow_ahead arrows
      have whole : spot.rest = (inner ++ closer :: front) ++ arrow.rest := by
        rw [(splitClosing?_eq encloses).1, parts]
        simp
      have taken : (inner ++ closer :: front).length = inner.length + 1 + arrow.passed + 1 := by
        rw [List.length_append, List.length_cons, long]
        omega
      have between : spot.rest.take (inner.length + 1 + arrow.passed + 1) = inner ++ closer :: front := by
        rw [← taken, take_front whole]
      simp only [Option.map_some]
      cases Lowering.parameters inner with
      | error error => rfl
      | ok names =>
        have body := stands.arrowBody state (", ".intercalate names) whole
        have place : i + (inner ++ closer :: front).length
            = i + 1 + inner.length + 1 + arrow.passed := by omega
        rw [place] at body
        simp only [settled, Except.mapError, body, between]
        rfl

theorem ownsBlock {found : Ahead} (is : ahead? spot.before = some found) :
    ownsBlock tokens found.rest.length = .ok (match beforeOpening? 0 spot.before with
      | some before =>
        match (before.find? Token.isMeaningful).bind Token.word? with
        | some owner => blockOwners.contains owner
        | none => false
      | none => false) := by
  obtain ⟨passed, -, blank, parts, -⟩ := behind_place is (spot.token :: spot.rest)
  obtain ⟨after, last⟩ := stands.last is
  have whole : tokens = (found.token :: found.rest).reverse ++ after := by
    rw [last.whole]
    simp
  have opening : openingBefore? tokens 0 (found.rest.length + 1)
      = (beforeOpening? 0 (found.token :: found.rest)).map List.length := by
    rw [whole]
    exact openingBefore?_eq ..
  rw [Placed.ownsBlock, opening, parts, beforeOpening?_clear blank.clear]
  cases opens : beforeOpening? 0 (found.token :: found.rest) with
  | none => rfl
  | some before =>
    obtain ⟨front, same⟩ := beforeOpening?_suffix opens
    rw [← same, List.reverse_append, List.append_assoc] at whole
    have owner : Placed.lastToken? tokens before.length = .ok (before.find? Token.isMeaningful) := by
      rw [whole]
      exact lastToken?_eq ..
    simp only [Option.map_some, owner, bind, Except.bind]
    cases (before.find? Token.isMeaningful).bind Token.word? <;> rfl

/-- Whether a brace opens a block is found without a crash. -/
theorem opensBlock : opensBlock tokens i = .ok (Lowering.opensBlock spot) := by
  rw [Placed.opensBlock, stands.lastBefore?, Lowering.opensBlock, Spot.lastIsSign, Spot.lastIsSign,
    Spot.lastIsWord, Spot.last?, find?_ahead]
  cases is : ahead? spot.before with
  | none => rfl
  | some found =>
    obtain ⟨after, last⟩ := stands.last is
    simp only [Option.map_some, bind, Except.bind, signAt?, wordAt?, last.here, Option.bind_some,
      stands.ownsBlock is, pure, Except.pure, ← apply_ite Except.ok, Except.ok.injEq, Option.isNone_some,
      Bool.false_or]
    have closes : (found.token.sign? == some ")") = found.token.sign?.any [")"].contains := by
      rw [Bool.eq_iff_iff]
      cases found.token.sign? <;> simp
    have either (first second third owned : Bool) :
        (if first then true else if second then true else if third then owned else false)
          = (first || second || third && owned) := by
      cases first <;> cases second <;> cases third <;> rfl
    rw [closes, either]
    cases found.token.sign? <;> cases found.token.word? <;> rfl

theorem closureOpened (head : String) :
    closureOpened tokens (.of state) i head = .ok (.of (Lowering.closureOpened state spot head)) := by
  have behind : ((spot.last?.bind Token.word?).any fun word => word != "return" && word != "in")
      = behindName spot := by
    rw [behindName]
    cases spot.last?.bind Token.word? <;> rfl
  rw [Placed.closureOpened, Lowering.closureOpened]
  simp only [stands.line, stands.lastToken?, stands.lastIsSign, stands.declaredName?, Draft.of_reopen?,
    bind, Except.bind, behind]
  have plain : (if behindName spot then
      (pure (((Draft.of state).emit ("(" ++ head)).push .closure "\x7d)" spot.token.line) : Outcome Draft)
    else pure ((((Draft.of state).addCallable spot.declaredName?).emit head).push
      .closure "\x7d" spot.token.line))
      = .ok (.of (if behindName spot then
          (state.emit ("(" ++ head)).push .closure "\x7d)" spot.token.line
        else ((state.addCallable spot.declaredName?).emit head).push .closure "\x7d" spot.token.line)) := by
    split <;> simp [pure, Except.pure]
  cases spot.lastIsSign [")"] with
  | false => exact plain
  | true =>
    cases state.output.reopen? with
    | none => exact plain
    | some output =>
      simp only [↓reduceIte, Option.map_some, Draft.of_endsOpen, Draft.of_emit, Draft.of_push]
      rfl

theorem closure (opens : isOpening spot.token = true) :
    closure tokens (.of state) i = placed i (Lowering.closure state spot) := by
  rw [Placed.closure, stands.closing opens, Lowering.closure]
  cases encloses : splitClosing? 1 spot.rest with
  | none => rfl
  | some found =>
    obtain ⟨inner, closer, after⟩ := found
    obtain ⟨parts, closes⟩ := splitClosing?_eq encloses
    have meant := isMeaningful_of_isOpening opens
    simp only [bind, Except.bind, closureParameters_eq stands meant parts closes, stands.closureOpened,
      stands.skip]
    rfl

theorem openBrace (language : Language) (opens : isOpening spot.token = true) :
    openBrace language tokens (.of state) i = placed i (Lowering.openBrace language state spot) := by
  rw [Placed.openBrace, Lowering.openBrace]
  simp only [stands.opensBlock, stands.lastIsSign, stands.lastIsWord, stands.closure state opens, stands.line,
    Draft.of_emit, Draft.of_push, bind, Except.bind, pure, Except.pure, placed_ite]
  cases spot.lastIsSign objectSigns <;> rfl

theorem close (sign : String) :
    close tokens (.of state) i sign = placed i (Lowering.close state spot sign) := by
  rw [Placed.close, Draft.of_closeCommands, Lowering.close]
  simp only [bind, Except.bind, Draft.of_frames, stands.fail]
  cases state.closeCommands.frames with
  | nil => rfl
  | cons frame frames =>
    have closed (state : State) : ({ Draft.of state with frames, lastClosed := some frame.kind } : Draft)
        = .of { state with frames, lastClosed := some frame.kind } := rfl
    simp only [placed_ite, closed, Draft.of_emit]
    rfl

theorem stepSign (sign : String) :
    stepSign tokens (.of state) i sign = placed i (Lowering.stepSign state spot sign) := by
  rw [Placed.stepSign, Lowering.stepSign, stands.lastToken?, placed_ite]
  simp only [bind, Except.bind, stands.lastIsSign, stands.fail, Draft.of_emit]
  cases spot.last?.bind Token.word? <;> rfl

theorem sign (language : Language) (text : String) (is : spot.token.kind = .sign text) :
    sign language tokens (.of state) i text = placed i (Lowering.sign language state spot text) := by
  have opens (among : text = "(" ∨ text = "[" ∨ text = "\x7b") : isOpening spot.token = true := by
    rcases among with rfl | rfl | rfl <;> simp [isOpening, Token.isSign, is]
  have command : (Draft.of state).context.inCommand = state.inCommand := rfl
  unfold Placed.sign Lowering.sign
  split
  · rw [Draft.of_emit]
    rfl
  · rw [Draft.of_emit]
    rfl
  · exact stands.openBrace state language (opens (by simp))
  · exact stands.openParen state language (opens (by simp))
  · exact stands.openBracket state language (opens (by simp))
  · exact stands.close state _
  · exact stands.close state _
  · exact stands.close state _
  · rw [Draft.of_closeCommands]
    simp only [bind, Except.bind, Draft.of_emit]
    rfl
  · exact stands.stepSign state _
  · exact stands.stepSign state _
  · rw [stands.fail]
    rfl
  · rw [stands.fail]
    rfl
  · rw [stands.fail]
    rfl
  · simp only [Draft.of_emit, command, placed_ite]
    rfl

end Stands

/-- A step from a place is the step of the lowering there. -/
theorem step_eq {tokens : List Token} {i : Nat} {spot : Spot} (stands : Stands tokens i spot)
    (language : Language) (state : State) :
    step language tokens (.of state) i = placed i (Lowering.step language state spot) := by
  rw [step, fetch_eq stands.here, Lowering.step.eq_def]
  simp only [bind, Except.bind]
  cases kind : spot.token.kind with
  | word text => exact stands.word state language text
  | sign text => exact stands.sign state language text kind
  | newline =>
    simp only [stands.lineEnd]
    rfl
  | quoted body quote =>
    simp only [withDollars_eq]
    cases language == .groovy && quote == '"' <;>
    · simp only [Bool.false_eq_true, ↓reduceIte, pure, Except.pure, Draft.of_emit]
      rfl
  | _ => 
    simp only [Draft.of_emit, Draft.of_pad]
    rfl

end ApiProbe.Script.Placed
