import ApiProbe.Proofs.Script.WrittenBreaks

/-!
The account of line ends that steps of the lowering keep: how many a state has more than the one
before. Most steps carry over just the line ends of the tokens that they take, first of all those that pass
over tokens in functions, names and operands.
-/
namespace ApiProbe.Script.Lowering

namespace Output
variable (output : Output)

/-- Line ends in all that has been written. -/
def breaks : Nat := (output.pieces.map fun piece => piece.toList.count '\n').sum

theorem count_text : output.text.toList.count '\n' = output.breaks := by
  rw [text, String.toList_join, List.flatMap_def, List.count_flatten, List.map_map,
    List.map_reverse, List.sum_reverse]
  rfl

theorem breaks_emit (text : String) :
    (output.emit text).breaks = output.breaks + text.toList.count '\n' := by
  simp [breaks, pieces, emit]
  omega

theorem breaks_pad (text : String) :
    (output.pad text).breaks = output.breaks + text.toList.count '\n' := by
  simp [breaks, pieces, pad]
  omega

theorem breaks_attach (text : String) :
    (output.attach text).breaks = output.breaks + text.toList.count '\n' := by
  simp [breaks, pieces, attach]
  omega

/-- Blanks that are taken back with a parenthesis are inline. -/
theorem breaks_reopen? {output reopened : Output} (is : output.reopen? = some reopened) :
    reopened.breaks = output.breaks := by
  unfold reopen? at is
  have parts := List.takeWhile_append_dropWhile (p := isInline) (l := output.pieces)
  split at is
  · rename_i last before dropped
    split at is
    · rename_i closes
      cases is
      have inline : ∀ n ∈ (output.pieces.takeWhile isInline).map
          (fun piece => piece.toList.count '\n'), n = 0 := by
        intro n member
        obtain ⟨piece, inside, rfl⟩ := List.mem_map.mp member
        have flat := List.all_eq_true.mp List.all_takeWhile piece inside
        simp only [isInline, Bool.and_eq_true, Bool.not_eq_true', List.contains_eq_mem,
          decide_eq_false_iff_not] at flat
        exact List.count_eq_zero.mpr flat.2
      rw [breaks, breaks, ← parts, dropped, List.map_append, List.sum_append,
        List.sum_eq_zero inline, beq_iff_eq.mp closes]
      simp [pieces]
    · cases is
  · cases is

end Output

/-- Open brackets are closed without a line end. -/
def State.Neat (state : State) : Prop := ∀ frame ∈ state.frames, Flat frame.close

/-- The next state has so many line ends more. -/
def Writes (state next : State) (n : Nat) : Prop :=
  state.Neat → next.Neat ∧ next.output.breaks = state.output.breaks + n

namespace Writes
variable {state next : State}

theorem refl (state : State) : Writes state state 0 := fun neat => ⟨neat, rfl⟩

theorem trans {last : State} {m n : Nat} (one : Writes state next m) (two : Writes next last n) :
    Writes state last (m + n) := by
  intro neat
  obtain ⟨middle, first⟩ := one neat
  obtain ⟨kept, second⟩ := two middle
  exact ⟨kept, by omega⟩

theorem cast {m n : Nat} (writes : Writes state next m) (same : m = n) : Writes state next n :=
  same ▸ writes

theorem emit_count (state : State) (text : String) :
    Writes state (state.emit text) (text.toList.count '\n') :=
  fun neat => ⟨neat, state.output.breaks_emit text⟩

theorem pad (state : State) (text : String) :
    Writes state (state.pad text) (text.toList.count '\n') :=
  fun neat => ⟨neat, state.output.breaks_pad text⟩

theorem emit {n : Nat} (writes : Writes state next n) {text : String} (flat : Flat text) :
    Writes state (next.emit text) n :=
  (writes.trans (emit_count next text)).cast (by rw [List.count_eq_zero.mpr flat]; rfl)

theorem push {n : Nat} (writes : Writes state next n) (kind : FrameKind) {close : String}
    (line : Nat) (flat : Flat close) : Writes state (next.push kind close line) n := by
  intro neat
  obtain ⟨kept, counted⟩ := writes neat
  refine ⟨?_, counted⟩
  rintro frame (_ | ⟨_, member⟩)
  · exact flat
  · exact kept frame member

theorem addCallable {n : Nat} (writes : Writes state next n) (name : Option String) :
    Writes state (next.addCallable name) n := by
  cases name <;> exact writes

theorem padLines (state : State) (n : Nat) :
    Writes state ((List.range n).foldl (fun state _ => state.pad "\n") state) n := by
  induction n with
  | zero => exact refl state
  | succ n ih =>
    rw [List.range_succ, List.foldl_append]
    exact ih.trans (pad _ "\n")

theorem skipped (state : State) (tokens : List Token) :
    Writes state (skip state tokens) (skippedBreaks tokens) := by
  induction tokens generalizing state with
  | nil => exact refl state
  | cons token rest ih =>
    exact ((padLines state (lineEnds token.kind)).trans (ih _)).cast (by simp [skippedBreaks])

theorem skip_bare {n : Nat} (writes : Writes state next n) {tokens : List Token}
    (bare : Bare tokens) : Writes state (skip next tokens) (n + breaksIn tokens) :=
  (writes.trans (skipped next tokens)).cast (by rw [skippedBreaks_bare bare])

theorem closeCommands (state : State) : Writes state state.closeCommands 0 := by
  intro neat
  have closing (output : Output) (frames : List Frame) (flat : ∀ frame ∈ frames, Flat frame.close) :
      (∀ frame ∈ (State.closeCommandsIn output frames).2, Flat frame.close) ∧
      (State.closeCommandsIn output frames).1.breaks = output.breaks := by
    induction frames generalizing output with
    | nil => exact ⟨flat, rfl⟩
    | cons frame rest ih =>
      rw [State.closeCommandsIn]
      split
      · obtain ⟨kept, same⟩ := ih (output.attach frame.close) fun other member =>
          flat other (List.mem_cons_of_mem _ member)
        refine ⟨kept, ?_⟩
        rw [same, Output.breaks_attach, List.count_eq_zero.mpr (flat frame List.mem_cons_self)]
        rfl
      · exact ⟨flat, rfl⟩
  exact closing state.output state.frames neat

end Writes

/-- The step carries over the line ends of the tokens it takes besides the first. -/
def Carries (state : State) (spot : Spot) (result : State × Nat) : Prop :=
  Writes state result.1 (breaksIn (spot.rest.take result.2))

variable {state next : State} {spot : Spot} {taken : Nat}

theorem Writes.carries (writes : Writes state next 0) : Carries state spot (next, 0) :=
  writes

theorem bare_take {tokens front rest : List Token} (parts : tokens = front ++ rest)
    (bare : Bare front) {n : Nat} (short : n ≤ front.length) : Bare (tokens.take n) := by
  rw [parts, List.take_append_of_le_length short]
  exact bare.take n

theorem breaks_sign {token : Token} {text : String} (is : token.isSign text = true) :
    token.kind.breaks = 0 := by
  rw [Token.kind_of_isSign is]
  rfl

theorem breaks_word {token : Token} {text : String} (is : token.word? = some text) :
    token.kind.breaks = 0 := by
  rw [Token.kind_of_word? is]
  rfl

/-- Skipping all that is taken. -/
theorem carries_skip {front rest : List Token} {n : Nat} (writes : Writes state next 0)
    (parts : spot.rest = front ++ rest) (bare : Bare front) (short : n ≤ front.length) :
    Carries state spot (skip next (spot.rest.take n), n) :=
  (writes.skip_bare (bare_take parts bare short)).cast (Nat.zero_add _)

/-- Skipping all that is taken, but for a sign at its end. -/
theorem carries_skip_sign {front rest : List Token} {sign : Token} {text : String} {n : Nat}
    (writes : Writes state next 0) (parts : spot.rest = front ++ sign :: rest)
    (long : front.length = n) (bare : Bare front) (is : sign.isSign text = true) :
    Carries state spot (skip next (spot.rest.take n), n + 1) := by
  subst long
  refine (writes.skip_bare (bare_take parts bare (Nat.le_refl _))).cast ?_
  rw [parts, List.take_left, List.take_append, List.take_of_length_le (by omega)]
  simp [breaks_sign is]

/-- The head of a function in the plain language. -/
private theorem flat_bars {names : String} (flat : Flat names) : Flat s!"|{names}|" :=
  flat_append (flat_append (by decide) flat) (by decide)

theorem flat_head {names : String} (flat : Flat names) :
    Flat (s!"|{names}| " ++ "\x7b") :=
  flat_append (flat_append (flat_append (by decide) flat) (by decide)) (by decide)

theorem arrowBody_carries {names : String} {between after : List Token} (flat : Flat names)
    (bare : Bare between) (parts : spot.rest = between ++ after) :
    Carries state spot (arrowBody state spot names between after) := by
  have known := (Writes.refl state).addCallable spot.declaredName?
  unfold arrowBody
  simp only
  split
  · rename_i brace found
    obtain ⟨passed, behind, long, blank, sign⟩ := aheadSign?_eq found
    have opened := known.emit (flat_head flat)
    have whole : spot.rest = (between ++ passed) ++ brace.token :: brace.rest := by
      rw [parts, behind, List.append_assoc]
    have long' : (between ++ passed).length = between.length + brace.passed := by
      rw [List.length_append, long]
    have front : between ++ after.take brace.passed
        = spot.rest.take (between.length + brace.passed) := by
      rw [← long', whole, List.take_left, behind, ← long, List.take_left]
    rw [front]
    exact (carries_skip_sign opened whole long' (bare.append blank.bare) sign).push _ _ (by decide)
  · refine ((known.emit (flat_bars flat)).skip_bare bare).cast ?_
    rw [parts, List.take_left, Nat.zero_add]

/-- An arrow ahead, with the blanks in front of it. -/
theorem arrow_ahead {tokens : List Token} {arrow : Ahead}
    (found : aheadSign? tokens "=>" = some arrow) :
    ∃ front, tokens = front ++ arrow.rest ∧ front.length = arrow.passed + 1 ∧ Clear front := by
  obtain ⟨passed, parts, long, blank, sign⟩ := aheadSign?_eq found
  refine ⟨passed ++ [arrow.token], ?_, ?_, ?_⟩
  · rw [parts, List.append_assoc, List.singleton_append]
  · simp [long]
  · exact blank.clear.append (.cons (clear_sign sign) clear_nil)

theorem name_carries (language : Language) {word : String} (flat : Flat word) :
    Carries state spot (name language state spot word) := by
  unfold name
  split
  · rename_i arrow found
    have ahead : aheadSign? spot.rest "=>" = some arrow := by
      split at found
      · exact found
      · cases found
    obtain ⟨front, parts, long, clear⟩ := arrow_ahead ahead
    have between : spot.rest.take (arrow.passed + 1) = front := by
      rw [parts, ← long, List.take_left]
    rw [between]
    exact arrowBody_carries flat clear.bare parts
  · split
    · exact ((Writes.refl state).emit (flat_append flat (by decide))).carries
    · exact ((Writes.refl state).emit flat).carries

/-- A name that is bound in a call with it, and the parentheses around it. -/
theorem boundCall?_carries {word call : String} {afterDot : Bool} (neat : Neat spot.rest)
    (is : boundCall? word afterDot spot.rest = some call) :
    Carries state spot (state.emit call, 3) := by
  unfold boundCall? at is
  split at is
  · rename_i opening argument closing more parts
    split at is
    · rename_i name found
      split at is
      · rename_i encloses
        simp only [Bool.and_eq_true] at encloses
        have plain : Flat name :=
          neat.flat_word ⟨argument, by rw [parts]; simp, Token.kind_of_word? found⟩
        have taken : breaksIn (spot.rest.take 3) = 0 := by
          rw [parts]
          simp [breaks_sign encloses.1.1, breaks_word found, breaks_sign encloses.1.2]
        have line : Flat call := by
          split at is
          · cases is
            exact flat_append (flat_append (flat_append (flat_append (by decide) plain)
              (by decide)) plain) (by decide)
          · split at is
            · cases is
              exact flat_append (flat_append (flat_append (flat_append (by decide) plain)
                (by decide)) plain) (by decide)
            · cases is
        exact ((Writes.refl state).emit line).cast taken.symm
      · cases is
    · cases is
  · cases is

theorem stringMethod?_flat {language : Language} {word method : String} {rest : List Token}
    (is : stringMethod? language word rest = some method) : Flat method := by
  unfold stringMethod? at is
  split at is
  · cases is
  · simp only at is
    split at is <;> cases is <;> decide

theorem renamed_flat {word : String} (flat : Flat word) : Flat (renamed word) := by
  unfold renamed
  split <;> first | decide | exact flat

theorem functionStart_eq {name : Option String} {opening : Ahead}
    (is : functionStart spot = .ok (name, opening)) :
    ∃ front, spot.rest = front ++ opening.token :: opening.rest ∧ front.length = opening.passed ∧
      Clear front ∧ opening.token.isSign "(" = true ∧
      ∀ text ∈ name, ∃ token ∈ spot.rest, token.kind = .word text := by
  unfold functionStart at is
  split at is
  · cases is
  · rename_i first found
    obtain ⟨passed, parts, long, blank, -⟩ := ahead?_eq found
    simp only at is
    split at is
    · cases is
    · rename_i opening start
      split at is
      · rename_i sign
        cases is
        cases word : first.token.word? with
        | none =>
          rw [word] at start
          cases start
          exact ⟨passed, parts, long, blank.clear, sign, fun _ member => by cases member⟩
        | some name =>
          rw [word] at start
          obtain ⟨next, behind, rfl⟩ := Option.map_eq_some_iff.mp start
          obtain ⟨between, parts', long', blank', -⟩ := ahead?_eq behind
          refine ⟨passed ++ first.token :: between, ?_, ?_, ?_, sign, ?_⟩
          · rw [parts, parts']
            simp
          · simp [long, long']
            omega
          · exact blank.clear.append (.cons (clear_word word) blank'.clear)
          · rintro text ⟨⟩
            exact ⟨first.token, by rw [parts]; simp, Token.kind_of_word? word⟩
      · cases is

theorem functionOpened_writes {name : Option String} {names : String} (flat : Flat names)
    (flatName : ∀ text ∈ name, Flat text) :
    Writes state (functionOpened state spot name names) 0 := by
  have anonymous : Writes state (((state.addCallable spot.declaredName?).emit
      (s!"|{names}| " ++ "\x7b")).push .closure "\x7d" spot.token.line) 0 :=
    (((Writes.refl state).addCallable _).emit (flat_head flat)).push _ _ (by decide)
  unfold functionOpened
  split
  · rename_i name
    split
    · have head : Flat (s!"let {name} = " ++ (s!"|{names}| " ++ "\x7b")) :=
        flat_append (flat_append (flat_append (by decide) (flatName name rfl)) (by decide))
          (flat_head flat)
      exact (((Writes.refl state).emit head).addCallable (some name)).push _ _ (by decide)
    · exact anonymous
  · exact anonymous

theorem function_carries (neat : Neat spot.rest)
    (done : function state spot = .ok (next, taken)) : Carries state spot (next, taken) := by
  simp only [function, bind, Except.bind] at done
  split at done
  · cases done
  rename_i start begins
  obtain ⟨name, opening⟩ := start
  obtain ⟨front, parts, long, clear, sign, named⟩ := functionStart_eq begins
  split at done
  · rename_i inner closing after encloses
    obtain ⟨parts', closes⟩ := splitClosing?_eq encloses
    split at done
    · cases done
    · rename_i names known
      obtain ⟨clear', words⟩ := parameters_clear known
      split at done
      · rename_i brace found
        cases done
        obtain ⟨passed, behind, long', blank, is⟩ := aheadSign?_eq found
        have whole : spot.rest = (front ++ opening.token :: (inner ++ closing :: passed))
            ++ brace.token :: brace.rest := by
          rw [parts, parts', behind]
          simp
        have within : Neat inner :=
          fun token member => neat token (by rw [parts, parts']; simp [member])
        have opened : Writes state (functionOpened state spot name (", ".intercalate names)) 0 :=
          functionOpened_writes (within.flat_names words) fun text member =>
            neat.flat_word (named text member)
        refine carries_skip_sign opened whole (by simp [← long, ← long']; omega) ?_ is
        exact clear.bare.append (.cons (bare_sign sign)
          (clear'.bare.append (.cons (bare_of_isClosing closes) blank.bare)))
      · cases done
  · cases done

private theorem flat_render {tokens : List Token} (neat : Neat tokens) (bare : Bare tokens) :
    Flat (render tokens) := by
  have counted := rendered_and_skipped neat
  rw [skippedBreaks_bare bare, templateBreaks_bare bare] at counted
  exact List.count_eq_zero.mp (by omega)

/-- What an operator for types is applied to: a word, and names behind points. -/
theorem typeOf_eq (done : typeOf state spot = .ok (next, taken)) :
    ∃ passed operand more, spot.rest = (passed ++ operand) ++ more ∧ Clear (passed ++ operand) ∧
      (passed ++ operand).length = taken ∧
      next = skip (state.emit s!"typeof({render operand})") (spot.rest.take taken) := by
  unfold typeOf at done
  split at done
  · cases done
  rename_i first found
  rw [Option.filter_eq_some_iff] at found
  obtain ⟨passed, parts, long, blank, -⟩ := ahead?_eq found.1
  obtain ⟨text, word⟩ := Option.isSome_iff_exists.mp found.2
  obtain ⟨path, more, behind⟩ := memberPath_eq first.rest
  cases done
  refine ⟨passed, first.token :: memberPath first.rest, more, ?_, ?_, ?_, rfl⟩
  · rw [parts, List.append_assoc, List.cons_append, ← behind]
  · exact blank.clear.append (.cons (clear_word word) path)
  · rw [List.length_append, long]

/-- The name of an error, up to its parentheses. -/
theorem newError_eq (done : newError state spot = .ok (next, taken)) :
    ∃ front rest, spot.rest = front ++ rest ∧ Clear front ∧ front.length = taken ∧
      next = skip state (spot.rest.take taken) := by
  unfold newError at done
  split at done
  · cases done
  rename_i name found
  rw [Option.filter_eq_some_iff] at found
  obtain ⟨passed, parts, long, blank, -⟩ := ahead?_eq found.1
  split at done
  · cases done
  rename_i opening sign
  obtain ⟨between, behind, long', blank', -⟩ := aheadSign?_eq sign
  cases done
  cases word : name.token.word? with
  | none => simp [word] at found
  | some text =>
    refine ⟨passed ++ name.token :: between, opening.token :: opening.rest, ?_, ?_, ?_, rfl⟩
    · rw [parts, behind, List.append_assoc, List.cons_append]
    · exact blank.clear.append (.cons (clear_word word) blank'.clear)
    · simp [long, long']
      omega

theorem typeOf_carries (neat : Neat spot.rest) (done : typeOf state spot = .ok (next, taken)) :
    Carries state spot (next, taken) := by
  obtain ⟨passed, operand, more, whole, clear, long, rfl⟩ := typeOf_eq done
  have bare : Bare operand := fun token member => clear.bare token (List.mem_append_right _ member)
  have plain : Flat (render operand) := by
    refine flat_render (fun token member => neat token ?_) bare
    rw [whole]
    exact List.mem_append_left _ (List.mem_append_right _ member)
  exact carries_skip
    ((Writes.refl state).emit (flat_append (flat_append (by decide) plain) (by decide)))
    whole clear.bare long.ge

theorem newError_carries (done : newError state spot = .ok (next, taken)) :
    Carries state spot (next, taken) := by
  obtain ⟨front, rest, whole, clear, long, rfl⟩ := newError_eq done
  exact carries_skip (Writes.refl state) whole clear.bare long.ge

end ApiProbe.Script.Lowering
