import ApiProbe.Proofs.Script.Nesting
import ApiProbe.Proofs.Script.BracketBreaks

/-!
The frames of the lowering against the brackets of the tokens it takes. The frames are a stack of the
brackets that are open, and every step keeps them so for the brackets it looks at one by one. Parameter
lists and heads of counting loops are not looked at: they are passed over up to the bracket that a
count of open brackets gives.
-/
namespace ApiProbe.Script.Lowering

def FrameKind.shape? : FrameKind → Option Bracket
  | .block | .closure | .function | .object => some .curly
  | .paren => some .round
  | .bracket | .map => some .square
  | .command => none

namespace State
variable (state : State)

/-- The brackets that are open, innermost first. -/
def held : List Bracket := state.frames.filterMap fun frame => frame.kind.shape?

@[simp] theorem held_emit (text : String) : (state.emit text).held = state.held := rfl

@[simp] theorem held_pad (text : String) : (state.pad text).held = state.held := rfl

@[simp] theorem held_addCallable (name : Option String) :
    (state.addCallable name).held = state.held := by
  cases name <;> rfl

theorem held_push {kind : FrameKind} {shape : Bracket} (is : kind.shape? = some shape)
    (close : String) (line : Nat) : (state.push kind close line).held = shape :: state.held :=
  List.filterMap_cons_some is

@[simp] theorem held_skip (tokens : List Token) : (skip state tokens).held = state.held := by
  have pads (state : State) (n : Nat) :
      ((List.range n).foldl (fun state _ => state.pad "\n") state).held = state.held := by
    induction n with
    | zero => rfl
    | succ n ih =>
      rw [List.range_succ, List.foldl_append]
      exact ih
  induction tokens generalizing state with
  | nil => rfl
  | cons token rest ih => exact (ih _).trans (pads state (lineEnds token.kind))

/-- Commands are not brackets. -/
@[simp] theorem held_closeCommands : state.closeCommands.held = state.held := by
  have closing (output : Output) (frames : List Frame) :
      (State.closeCommandsIn output frames).2.filterMap (fun frame => frame.kind.shape?)
        = frames.filterMap fun frame => frame.kind.shape? := by
    induction frames generalizing output with
    | nil => rfl
    | cons frame rest ih =>
      rw [closeCommandsIn]
      split
      · rename_i command
        rw [ih, List.filterMap_cons_none]
        rw [beq_iff_eq.mp command]
        rfl
      · rfl
  exact closing state.output state.frames

end State

/-- The frames of the next state are what the tokens leave open. -/
def Follows (state next : State) (tokens : List Token) : Prop :=
  scan state.held (marks tokens) = some next.held

variable {language : Language} {state next : State} {spot : Spot} {taken : Nat}
  {tokens front rest : List Token}

theorem Follows.of_clear (clear : Clear tokens) (same : next.held = state.held) :
    Follows state next tokens := by
  rw [Follows, clear.marks, scan_nil, same]

theorem take_front (parts : spot.rest = front ++ rest) : spot.rest.take front.length = front := by
  rw [parts, List.take_left]

/-- The head of a function behind its parameters: all that is looked at is its brace. -/
theorem arrowBody_marks (state : State) (names : String) {between after : List Token}
    (parts : spot.rest = between ++ after) :
    ∃ back, marks (spot.rest.take (arrowBody state spot names between after).2)
        = marks between ++ back ∧
      scan state.held back = some (arrowBody state spot names between after).1.held := by
  unfold arrowBody
  simp only
  split
  · rename_i brace found
    obtain ⟨passed, behind, long, blank, sign⟩ := aheadSign?_eq found
    have whole : spot.rest = (between ++ (passed ++ [brace.token])) ++ brace.rest := by
      rw [parts, behind]
      simp
    have all : between.length + brace.passed + 1 = (between ++ (passed ++ [brace.token])).length := by
      simp [long]
      omega
    refine ⟨[.opens .curly], ?_, ?_⟩
    · rw [all, take_front whole, marks_append, marks_append, blank.clear.marks,
        marks_cons_of_some (mark?_of_isSign sign)]
      rfl
    · rw [State.held_push _ rfl, State.held_skip, State.held_emit, State.held_addCallable]
      rfl
  · refine ⟨[], ?_, ?_⟩
    · rw [take_front parts, List.append_nil]
    · simp

theorem name_follows (language : Language) (state : State) (spot : Spot) (word : String) :
    Follows state (name language state spot word).1
      (spot.rest.take (name language state spot word).2) := by
  unfold name
  split
  · rename_i arrow found
    have ahead : aheadSign? spot.rest "=>" = some arrow := by
      split at found
      · exact found
      · cases found
    obtain ⟨front, parts, long, clear⟩ := arrow_ahead ahead
    rw [← long, take_front parts]
    obtain ⟨back, same, opened⟩ := arrowBody_marks state word parts
    rw [Follows, same, clear.marks]
    exact opened
  · split <;> exact .of_clear clear_nil rfl

/-- A name in parentheses that a call is bound to. -/
theorem boundCall?_follows {word call : String} {afterDot : Bool}
    (is : boundCall? word afterDot spot.rest = some call) :
    Follows state (state.emit call) (spot.rest.take 3) := by
  unfold boundCall? at is
  split at is
  · rename_i opening argument closing more parts
    split at is
    · rename_i name found
      split at is
      · rename_i encloses
        simp only [Bool.and_eq_true] at encloses
        obtain ⟨-, noOpening, noClosing⟩ := clear_word found
        have taken : spot.rest.take 3 = [opening, argument, closing] := by
          rw [parts]
          rfl
        rw [Follows, taken, marks_cons_of_some (mark?_of_isSign encloses.1.1),
          marks_cons_of_none (mark?_eq_none noOpening noClosing),
          marks_cons_of_some (mark?_of_isSign encloses.1.2)]
        exact scan_opens ..
      · cases is
    · cases is
  · cases is

theorem typeOf_follows (done : typeOf state spot = .ok (next, taken)) :
    Follows state next (spot.rest.take taken) := by
  obtain ⟨passed, operand, more, whole, clear, rfl, rfl⟩ := typeOf_eq done
  rw [take_front whole]
  exact .of_clear clear (by simp)

theorem newError_follows (done : newError state spot = .ok (next, taken)) :
    Follows state next (spot.rest.take taken) := by
  obtain ⟨front, rest, whole, clear, rfl, rfl⟩ := newError_eq done
  rw [take_front whole]
  exact .of_clear clear (by simp)

theorem command_follows {word : String} (done : command state spot word = .ok (next, taken)) :
    Follows state next (spot.rest.take taken) := by
  unfold command at done
  simp only at done
  split at done
  · rename_i argument found
    rw [aheadOnLine?, Option.filter_eq_some_iff] at found
    obtain ⟨passed, parts, long, blank, -⟩ := ahead?_eq found.1
    split at done
    · cases done
      exact .of_clear clear_nil rfl
    · cases done
      rw [← long, take_front parts]
      exact .of_clear blank.clear rfl
  · cases done
    refine .of_clear clear_nil ?_
    split <;> rfl

/-- The tokens of a parameter list or of a loop's head, with the parentheses around them. -/
def enclosed (opening : Token) (rest : List Token) : List Token :=
  match splitClosing? 1 rest with
  | some (inner, last, _) => opening :: (inner ++ [last])
  | none => []

/-- The parameter list of a function. -/
def functionParameters (spot : Spot) : List Token :=
  match functionStart spot with
  | .ok (_, opening) => enclosed opening.token opening.rest
  | .error _ => []

/-- The head of a counting loop. -/
def countedHead (rest : List Token) : List Token :=
  match aheadSign? rest "(" with
  | some opening =>
    match splitClosing? 1 opening.rest with
    | some (inner, _, _) =>
      if (countingHead? (loopHead inner)).isSome then enclosed opening.token opening.rest else []
    | none => []
  | none => []

/-- The parameter list of an arrow function. -/
def arrowParameters (opening : Token) (rest : List Token) : List Token :=
  match splitClosing? 1 rest with
  | some (_, _, after) => if nextIs after "=>" then enclosed opening rest else []
  | none => []

/-- Tokens that a step takes without a look at the shapes of the brackets among them. -/
def passedOver (language : Language) (spot : Spot) : List Token :=
  match spot.token.kind with
  | .word text =>
    if spot.afterDot then []
    else if text == "function" && language == .javaScript then functionParameters spot
    else if text == "for" then countedHead spot.rest
    else []
  | .sign text =>
    if text == "(" && language == .javaScript then arrowParameters spot.token spot.rest else []
  | _ => []

theorem enclosed_balanced {opening : Token} (sign : opening.isSign "(" = true) (rest : List Token) :
    Balanced (marks (enclosed opening rest)) := by
  unfold enclosed
  split
  · rename_i inner last after encloses
    exact balanced_of_splitClosing? (by simp [isOpening, sign]) encloses
  · exact Nested.nil

/-- Some balanced tokens are passed over, and the frames follow the others behind them. -/
def Passes (state next : State) (tokens passed : List Token) : Prop :=
  Balanced (marks passed) ∧
    ∃ back, marks tokens = marks passed ++ back ∧ scan state.held back = some next.held

theorem Follows.passes (follows : Follows state next tokens) : Passes state next tokens [] :=
  ⟨.nil, marks tokens, rfl, follows⟩

theorem held_functionOpened (state : State) (spot : Spot) (name : Option String) (names : String) :
    (functionOpened state spot name names).held = .curly :: state.held := by
  unfold functionOpened
  split
  · split
    · rw [State.held_push _ rfl, State.held_addCallable, State.held_emit]
    · rw [State.held_push _ rfl, State.held_emit, State.held_addCallable]
  · rw [State.held_push _ rfl, State.held_emit, State.held_addCallable]

theorem function_passes (done : function state spot = .ok (next, taken)) :
    Passes state next (spot.rest.take taken) (functionParameters spot) := by
  simp only [function, bind, Except.bind] at done
  split at done
  · cases done
  rename_i start begins
  obtain ⟨name, opening⟩ := start
  obtain ⟨front, parts, long, clear, sign, -⟩ := functionStart_eq begins
  have list : functionParameters spot = enclosed opening.token opening.rest := by
    rw [functionParameters, begins]
  have balanced := enclosed_balanced sign opening.rest
  rw [← list] at balanced
  split at done
  · rename_i inner closing after encloses
    rw [enclosed, encloses] at list
    obtain ⟨parts', -⟩ := splitClosing?_eq encloses
    split at done
    · cases done
    rename_i names known
    split at done
    · rename_i brace found
      cases done
      obtain ⟨passed, behind, long', blank, is⟩ := aheadSign?_eq found
      have whole : spot.rest = (front ++ (functionParameters spot ++ (passed ++ [brace.token])))
          ++ brace.rest := by
        rw [list, parts, parts', behind]
        simp
      have all : opening.passed + 1 + inner.length + 1 + brace.passed + 1
          = (front ++ (functionParameters spot ++ (passed ++ [brace.token]))).length := by
        rw [list]
        simp [← long, ← long']
        omega
      refine ⟨balanced, [.opens .curly], ?_, ?_⟩
      · rw [all, take_front whole, marks_append, marks_append, marks_append, clear.marks,
          blank.clear.marks, marks_cons_of_some (mark?_of_isSign is)]
        rfl
      · rw [State.held_skip, held_functionOpened]
        rfl
    · cases done
  · cases done

/-- A loop over items opens the parenthesis of its head and takes what stands in front of them. -/
theorem itemLoop_follows (language : Language) {opening : Ahead} {passed inner after more : List Token}
    {name keyword closing : Token} {first second : String}
    (parts : spot.rest = passed ++ opening.token :: opening.rest)
    (parts' : opening.rest = inner ++ closing :: after) (long : passed.length = opening.passed)
    (blank : Blank passed) (sign : opening.token.isSign "(" = true)
    (shape : meaningful (loopHead inner) = name :: keyword :: more)
    (word : name.word? = some first) (word' : keyword.word? = some second) :
    Follows state (itemLoop language state spot opening inner first second).1
      (spot.rest.take (itemLoop language state spot opening inner first second).2) := by
  obtain ⟨head, behind, clearHead⟩ := itemsHead_eq shape word word'
  obtain ⟨idle, items, body, blank', short⟩ := blanks_ahead (dropMeaningful 2 (loopHead inner))
  have whole : spot.rest = (passed ++ opening.token :: (head ++ idle))
      ++ (items ++ closing :: after) := by
    rw [parts, parts', behind]
    conv_lhs => rw [body]
    simp
  have all : (itemLoop language state spot opening inner first second).2
      = (passed ++ opening.token :: (head ++ idle)).length := by
    have counted := congrArg List.length behind
    simp only [itemLoop, ← short, ← long, List.length_append, List.length_cons] at counted ⊢
    omega
  have taken : marks (passed ++ opening.token :: (head ++ idle)) = [.opens .round] := by
    rw [marks_append, blank.clear.marks, marks_cons_of_some (mark?_of_isSign sign),
      (clearHead.append blank'.clear).marks]
    rfl
  rw [Follows, all, take_front whole, taken, itemLoop, State.held_skip]
  split
  · rw [State.held_push _ rfl]
    rfl
  · rw [State.held_push _ rfl]
    rfl

/-- The head of a counting loop is passed over, that of a loop over items is not. -/
theorem forLoop_passes (done : forLoop language state spot = .ok (next, taken)) :
    Passes state next (spot.rest.take taken) (countedHead spot.rest) := by
  unfold forLoop at done
  split at done
  · rename_i absent
    cases done
    have none_ : countedHead spot.rest = [] := by rw [countedHead, absent]
    rw [none_]
    exact Follows.passes (.of_clear clear_nil rfl)
  rename_i opening found
  obtain ⟨passed, parts, long, blank, sign⟩ := aheadSign?_eq found
  split at done
  · cases done
  rename_i inner closing after encloses
  obtain ⟨parts', -⟩ := splitClosing?_eq encloses
  have head : countedHead spot.rest = if (countingHead? (loopHead inner)).isSome then
      opening.token :: (inner ++ [closing]) else [] := by
    rw [countedHead, found]
    simp only [encloses, enclosed]
  have balanced : Balanced (marks (opening.token :: (inner ++ [closing]))) :=
    balanced_of_splitClosing? (by simp [isOpening, sign]) encloses
  have counting (ok : countingLoop state spot opening inner = .ok (next, taken)) :
      Passes state next (spot.rest.take taken) (countedHead spot.rest) := by
    unfold countingLoop at ok
    split at ok
    · rename_i text counts
      cases ok
      have whole : spot.rest = (passed ++ opening.token :: (inner ++ [closing])) ++ after := by
        rw [parts, parts']
        simp
      have all : opening.passed + 1 + inner.length + 1
          = (passed ++ opening.token :: (inner ++ [closing])).length := by
        simp [← long]
        omega
      rw [head, counts, all, take_front whole]
      refine ⟨balanced, [], ?_, ?_⟩
      · rw [marks_append, blank.clear.marks]
        simp
      · simp
    · cases ok
  split at done
  · rename_i name keyword _ _ shape
    split at done
    · rename_i first second word word'
      split at done
      · cases done
        rw [head, countingHead?_of_words shape word']
        exact Follows.passes (itemLoop_follows language parts parts' long blank sign shape word word')
      · exact counting done
    · exact counting done
  · exact counting done

end ApiProbe.Script.Lowering
