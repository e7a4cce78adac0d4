import ApiProbe.Proofs.Script.Frames
import ApiProbe.Proofs.Script.LineBreaks

/-!
Which scripts can be lowered. Their brackets are balanced, and they are nested exactly if they are so
where the lowering passes over them: in parameter lists and in heads of counting loops.
-/
namespace ApiProbe.Script.Lowering

variable {language : Language} {state next : State} {spot : Spot} {taken : Nat} {text : String}

/-- A token that opens or closes nothing, and what follows it. -/
theorem Passes.cons {tokens passed : List Token} {token : Token} (passes : Passes state next tokens passed)
    (none_ : token.mark? = none) : Passes state next (token :: tokens) passed := by
  obtain ⟨balanced, back, parts, opened⟩ := passes
  exact ⟨balanced, back, (marks_cons_of_none none_ tokens).trans parts, opened⟩

section Signs

theorem openBracket_follows (sign : spot.token.isSign "[" = true)
    (done : openBracket language state spot = .ok (next, taken)) :
    Follows state next (spot.token :: spot.rest.take taken) := by
  rw [Follows, marks_cons_of_some (mark?_of_isSign sign)]
  have plain (kind : FrameKind) (close : String) (is : kind.shape? = some .square) (opener : String) :
      scan state.held [.opens .square]
        = some ((state.emit opener).push kind close spot.token.line).held := by
    rw [State.held_push _ is, State.held_emit]
    rfl
  unfold openBracket at done
  split at done
  · split at done
    · rename_i n empty
      cases done
      obtain ⟨front, last, more, parts, rfl, clear, closing⟩ := emptyMap?_eq empty
      have whole : spot.rest = (front ++ [last]) ++ more := by
        rw [parts, List.append_assoc, List.singleton_append]
      have all : front.length + 1 = (front ++ [last]).length := by simp
      rw [all, take_front whole, marks_append, clear.marks,
        marks_cons_of_some (mark?_of_isSign closing)]
      change scan state.held [.opens .square, .closes .square] = some (skip _ _).held
      rw [State.held_skip]
      exact scan_opens ..
    · split at done
      · cases done
      · split at done
        · cases done
          exact plain .map _ rfl _
        · cases done
          exact plain .bracket _ rfl _
  · cases done
    exact plain .bracket _ rfl _

theorem openParen_passes (sign : spot.token.isSign "(" = true)
    (done : openParen language state spot = .ok (next, taken)) :
    Passes state next (spot.token :: spot.rest.take taken)
      (if language == .javaScript then arrowParameters spot.token spot.rest else []) := by
  have plain : Follows state ((state.emit "(").push .paren ")" spot.token.line)
      (spot.token :: spot.rest.take 0) := by
    rw [Follows, marks_cons_of_some (mark?_of_isSign sign), State.held_push _ rfl]
    exact scan_opens ..
  unfold openParen at done
  simp only at done
  split at done
  · rename_i groovy
    cases done
    rw [beq_iff_eq.mp groovy]
    exact plain.passes
  rename_i other
  have script : (language == .javaScript) = true := by
    cases language with
    | javaScript => rfl
    | groovy => exact (other rfl).elim
  rw [script, if_pos rfl]
  split at done
  · cases done
  rename_i inner closing after encloses
  obtain ⟨parts, -⟩ := splitClosing?_eq encloses
  split at done
  · rename_i absent
    cases done
    have none_ : arrowParameters spot.token spot.rest = [] := by
      rw [arrowParameters, encloses]
      simp [nextIs, absent]
    rw [none_]
    exact plain.passes
  rename_i arrow found
  obtain ⟨passed, behind, long, clear⟩ := arrow_ahead found
  have list : arrowParameters spot.token spot.rest = spot.token :: (inner ++ [closing]) := by
    rw [arrowParameters, encloses]
    simp [nextIs, found, enclosed, encloses]
  cases known : parameters inner with
  | error error =>
    rw [known] at done
    cases done
  | ok names =>
    rw [known] at done
    have same : arrowBody state spot (", ".intercalate names)
        (spot.rest.take (inner.length + 1 + arrow.passed + 1)) arrow.rest = (next, taken) :=
      Except.ok.inj done
    have whole : spot.rest = (inner ++ closing :: passed) ++ arrow.rest := by
      rw [parts, behind]
      simp
    have between : spot.rest.take (inner.length + 1 + arrow.passed + 1)
        = inner ++ closing :: passed := by
      have all : inner.length + 1 + arrow.passed + 1 = (inner ++ closing :: passed).length := by
        simp [long]
        omega
      rw [all, take_front whole]
    rw [between] at same
    obtain ⟨back, kept, opened⟩ := arrowBody_marks state (", ".intercalate names) whole
    rw [same] at kept opened
    refine ⟨?_, back, ?_, opened⟩
    · rw [list]
      exact balanced_of_splitClosing? (by simp [isOpening, sign]) encloses
    · have front : inner ++ closing :: passed = (inner ++ [closing]) ++ passed := by simp
      rw [list, marks_cons_of_some (mark?_of_isSign sign), marks_cons_of_some (mark?_of_isSign sign),
        kept, front, marks_append, clear.marks, List.append_nil]
      rfl

theorem held_closureOpened (state : State) (spot : Spot) (head : String) :
    (closureOpened state spot head).held = .curly :: state.held := by
  unfold closureOpened
  simp only
  split
  · rw [State.held_push _ rfl]
    rfl
  · split
    · rw [State.held_push _ rfl]
      rfl
    · rw [State.held_push _ rfl, State.held_emit, State.held_addCallable]

theorem openBrace_follows (sign : spot.token.isSign "\x7b" = true)
    (done : openBrace language state spot = .ok (next, taken)) :
    Follows state next (spot.token :: spot.rest.take taken) := by
  rw [Follows, marks_cons_of_some (mark?_of_isSign sign)]
  have plain (kind : FrameKind) (is : kind.shape? = some .curly) (opener : String) :
      scan state.held [.opens .curly]
        = some ((state.emit opener).push kind "\x7d" spot.token.line).held := by
    rw [State.held_push _ is, State.held_emit]
    rfl
  unfold openBrace at done
  split at done
  · split at done
    · cases done
      exact plain .block rfl _
    · unfold closure at done
      split at done
      · cases done
      rename_i inner closing after encloses
      obtain ⟨parts, -⟩ := splitClosing?_eq encloses
      cases known : closureParameters spot inner with
      | mk names n =>
        rw [known] at done
        cases done
        obtain ⟨clear, short⟩ := closureParameters_clear known
        rw [parts, List.take_append_of_le_length short, clear.marks, State.held_skip,
          held_closureOpened]
        exact scan_opens ..
  · split at done
    · cases done
      exact plain .object rfl _
    · cases done
      exact plain .block rfl _

theorem signMark?_eq_none (other : text ∉ brackets) : signMark? text = none := by
  unfold signMark?
  split
  case h_7 => rfl
  all_goals exact absurd (by decide) other

/-- What fits a frame is a closing bracket of its shape. -/
theorem shape?_of_fits {kind : FrameKind} {shape : Bracket} (closes : signMark? text = some (.closes shape))
    (fit : fits text kind = true) : kind.shape? = some shape := by
  unfold signMark? at closes
  split at closes <;> cases closes
  · cases kind <;> first | rfl | exact absurd fit (by decide)
  · cases kind <;> first | rfl | exact absurd fit (by decide)
  · cases kind <;> first | rfl | exact absurd fit (by decide)

theorem close_follows {shape : Bracket} (closes : signMark? text = some (.closes shape))
    (sign : spot.token.isSign text = true) (done : close state spot text = .ok (next, taken)) :
    Follows state next (spot.token :: spot.rest.take taken) := by
  unfold close at done
  simp only at done
  split at done
  · cases done
  rename_i frame frames open_
  split at done
  · rename_i fit
    cases done
    have held : state.held = shape :: frames.filterMap fun frame => frame.kind.shape? := by
      rw [← State.held_closeCommands, State.held, open_]
      exact List.filterMap_cons_some (shape?_of_fits closes fit)
    rw [Follows, marks_cons_of_some ((mark?_of_isSign sign).trans closes), held]
    exact scan_closes ..
  · cases done

theorem sign_passes (kind : spot.token.kind = .sign text)
    (done : sign language state spot text = .ok (next, taken)) :
    Passes state next (spot.token :: spot.rest.take taken) (passedOver language spot) := by
  have is : spot.token.isSign text = true := beq_iff_eq.mpr kind
  have passed : passedOver language spot
      = if text == "(" && language == .javaScript then arrowParameters spot.token spot.rest else [] := by
    rw [passedOver, kind]
  rw [passed]
  -- All signs but the parenthesis are looked at; those that are no brackets change no frame.
  have plain (none_ : signMark? text = none) (same : next.held = state.held) (alone : taken = 0) :
      Follows state next (spot.token :: spot.rest.take taken) := by
    rw [Follows, marks_cons_of_none ((mark?_of_isSign is).trans none_), alone, same]
    exact scan_nil _
  unfold sign at done
  split at done
  case h_3 => exact (openBrace_follows is done).passes
  case h_4 =>
    have passes := openParen_passes is done
    cases language <;> exact passes
  case h_5 => exact (openBracket_follows is done).passes
  case h_6 | h_7 | h_8 => exact (close_follows rfl is done).passes
  case h_9 =>
    cases done
    exact (plain rfl state.held_closeCommands rfl).passes
  case h_10 | h_11 =>
    unfold stepSign at done
    split at done
    · cases done
      exact (plain rfl rfl rfl).passes
    · cases done
  case h_12 | h_13 | h_14 => cases done
  case h_1 | h_2 =>
    cases done
    exact (plain rfl rfl rfl).passes
  case h_15 =>
    have other : text ∉ brackets := by
      intro member
      simp only [brackets, List.mem_cons, List.not_mem_nil, or_false] at member
      rcases member with rfl | rfl | rfl | rfl | rfl | rfl <;> contradiction
    have none_ := signMark?_eq_none other
    have noParenthesis : (text == "(") = false := by
      rw [beq_eq_false_iff_ne]
      rintro rfl
      exact other List.mem_cons_self
    rw [noParenthesis]
    repeat' split at done
    all_goals
      cases done
      exact (plain none_ rfl rfl).passes

end Signs

section Words

/-- Words that pass over nothing. -/
def Watched (language : Language) (spot : Spot) (text : String) : Prop :=
  spot.afterDot = true ∨ ((text == "function" && language == .javaScript) = false ∧ text ≠ "for")

theorem passedOver_word (kind : spot.token.kind = .word text) (watched : Watched language spot text) :
    passedOver language spot = [] := by
  rw [passedOver, kind]
  rcases watched with behind | ⟨noFunction, noLoop⟩
  · exact if_pos behind
  · simp only [noFunction, beq_eq_false_iff_ne.mpr noLoop, Bool.false_eq_true, if_false, ite_self]

theorem keyword_follows (noFunction : (text == "function" && language == .javaScript) = false)
    (noLoop : text ≠ "for") (done : keyword language state spot text = .ok (next, taken)) :
    Follows state next (spot.rest.take taken) := by
  unfold keyword at done
  rw [ite_eq_iff] at done
  rcases done with ⟨-, done⟩ | ⟨-, done⟩
  · cases done
    exact .of_clear clear_nil rfl
  rw [ite_eq_iff] at done
  rcases done with ⟨-, done⟩ | ⟨-, done⟩
  · cases done
    exact .of_clear clear_nil rfl
  rw [ite_eq_iff] at done
  rcases done with ⟨-, done⟩ | ⟨-, done⟩
  · cases done
  rw [ite_eq_iff] at done
  rcases done with ⟨-, done⟩ | ⟨-, done⟩
  · cases done
  rw [noFunction, beq_eq_false_iff_ne.mpr noLoop] at done
  simp only [Bool.false_eq_true, if_false] at done
  rw [ite_eq_iff] at done
  rcases done with ⟨-, done⟩ | ⟨-, done⟩
  · exact typeOf_follows done
  rw [ite_eq_iff] at done
  rcases done with ⟨-, done⟩ | ⟨-, done⟩
  · exact newError_follows done
  rw [ite_eq_iff] at done
  rcases done with ⟨-, done⟩ | ⟨-, done⟩
  · exact command_follows done
  split at done
  · rename_i opening found
    have ahead : aheadSign? spot.rest "(" = some opening := by
      split at found
      · exact found
      · cases found
    obtain ⟨passed, parts, long, blank, -⟩ := aheadSign?_eq ahead
    cases done
    rw [← long, take_front parts]
    exact .of_clear blank.clear (by simp)
  · have follows := name_follows language state spot text
    rwa [Except.ok.inj done] at follows

theorem word_follows (watched : Watched language spot text)
    (done : word language state spot text = .ok (next, taken)) :
    Follows state next (spot.rest.take taken) := by
  unfold word at done
  simp only at done
  split at done
  · rename_i call found
    cases done
    split at found
    · exact boundCall?_follows found
    · cases found
  split at done
  · cases done
    exact .of_clear clear_nil rfl
  · rename_i outside
    obtain ⟨noFunction, noLoop⟩ := watched.resolve_left outside
    exact keyword_follows noFunction noLoop done

theorem word_passes (kind : spot.token.kind = .word text)
    (done : word language state spot text = .ok (next, taken)) :
    Passes state next (spot.rest.take taken) (passedOver language spot) := by
  by_cases behind : spot.afterDot = true
  · rw [passedOver_word kind (.inl behind)]
    exact (word_follows (.inl behind) done).passes
  by_cases starts : (text == "function" && language == .javaScript) = true
  · have passed : passedOver language spot = functionParameters spot := by
      simp only [passedOver, kind, if_neg behind, starts, if_true]
    simp only [Bool.and_eq_true, beq_iff_eq] at starts
    obtain ⟨rfl, rfl⟩ := starts
    have same : word .javaScript state spot "function" = function state spot := if_neg behind
    rw [passed]
    exact function_passes (same.symm.trans done)
  by_cases loop : text = "for"
  · subst loop
    have passed : passedOver language spot = countedHead spot.rest := by
      simp only [passedOver, kind, if_neg behind, if_neg starts]
      rfl
    have same : word language state spot "for" = forLoop language state spot := if_neg behind
    rw [passed]
    exact forLoop_passes (same.symm.trans done)
  · have watched : Watched language spot text := .inr ⟨Bool.eq_false_iff.mpr starts, loop⟩
    rw [passedOver_word kind watched]
    exact (word_follows watched done).passes

end Words

/-- Tokens that are neither words nor signs change no frame. -/
theorem passes_other (noWord : spot.token.word? = none) (noSign : spot.token.sign? = none)
    (same : next.held = state.held) :
    Passes state next (spot.token :: spot.rest.take 0) (passedOver language spot) := by
  have passed : passedOver language spot = [] := by
    unfold Token.word? at noWord
    unfold Token.sign? at noSign
    unfold passedOver
    cases kind : spot.token.kind with
    | word text => simp [kind] at noWord
    | sign text => simp [kind] at noSign
    | _ => rfl
  have none_ : spot.token.mark? = none := by rw [Token.mark?, noSign]; rfl
  rw [passed]
  exact (Follows.passes (.of_clear clear_nil same)).cons none_

/-- What one step preserves. -/
theorem step_passes (done : step language state spot = .ok (next, taken)) :
    Passes state next (spot.token :: spot.rest.take taken) (passedOver language spot) := by
  unfold step at done
  cases kind : spot.token.kind with
  | newline =>
    rw [kind] at done
    cases done
    refine passes_other (by rw [Token.word?, kind]) (by rw [Token.sign?, kind]) ?_
    unfold lineEnd
    simp only [State.held_pad]
    split <;> exact State.held_closeCommands state
  | word text =>
    rw [kind] at done
    refine (word_passes kind done).cons ?_
    rw [Token.mark?, Token.sign?, kind]
    rfl
  | sign text =>
    rw [kind] at done
    exact sign_passes kind done
  | _ =>
    rw [kind] at done
    cases done
    exact passes_other (by rw [Token.word?, kind]) (by rw [Token.sign?, kind]) rfl

/-- What a run preserves: the frames are those of the brackets, shapes aside; and they are so with
their shapes exactly if all that was passed over is nested. -/
theorem steps_scan {before tokens : List Token} {last : State}
    (done : steps language state before tokens = .ok last) :
    scan (blur state.held) ((marks tokens).map Mark.blurred) = some (blur last.held) ∧
      (scan state.held (marks tokens) = some last.held ↔
        ∀ spot ∈ spots language state before tokens, Nested (marks (passedOver language spot))) := by
  fun_induction steps language state before tokens generalizing last with
  | case1 state before =>
    cases done
    refine ⟨scan_nil _, ?_⟩
    simp [marks, spots]
  | case2 => cases done
  | case3 state before token rest next taken stepped ih =>
    obtain ⟨balanced, back, parts, opened⟩ := step_passes stepped
    obtain ⟨counted, nested⟩ := ih done
    have whole : marks (token :: rest) = marks (passedOver language ⟨before, token, rest⟩)
        ++ (back ++ marks (rest.drop taken)) := by
      rw [← List.append_assoc, ← parts, ← marks_append, List.cons_append, List.take_append_drop]
    rw [spots, stepped]
    simp only [List.forall_mem_cons, ← nested, whole]
    constructor
    · rw [List.map_append, scan_append_of_eq (balanced.scan _), List.map_append,
        scan_append_of_eq (scan_blurred opened)]
      exact counted
    constructor
    · intro scanned
      rw [scan_append, Option.bind_eq_some_iff] at scanned
      obtain ⟨middle, entered, left⟩ := scanned
      obtain ⟨rfl, own⟩ := balanced.of_scan entered
      rw [scan_append_of_eq opened] at left
      exact ⟨own, left⟩
    · rintro ⟨own, left⟩
      rw [scan_append_of_eq (own.scan _), scan_append_of_eq opened]
      exact left

/-- The brackets of a script that can be lowered are balanced. They are nested exactly if those are
that its lowering passes over, in parameter lists and in heads of counting loops. -/
theorem lower_nested_iff {script result : String} {found : List Token}
    (read : tokens script = .ok found) (done : lower language script = .ok result) :
    Balanced (marks found) ∧
      (Nested (marks found) ↔
        ∀ spot ∈ scriptSpots language script, Nested (marks (passedOver language spot))) := by
  have spotted : scriptSpots language script = spots language .start [] found := by
    rw [scriptSpots, read]
  simp only [lower, read, bind, Except.bind] at done
  split at done
  · cases done
  rename_i last finished
  split at done
  · rename_i none_
    have empty : last.held = [] := by
      rw [← State.held_closeCommands, State.held, none_]
      rfl
    obtain ⟨counted, nested⟩ := steps_scan finished
    rw [empty] at counted nested
    rw [spotted, ← nested]
    exact ⟨nested_iff_scan.mpr counted, nested_iff_scan⟩
  · cases done

/-- A parameter list may end with a bracket of another shape. -/
theorem lower_nested_iff_parameters :
    tokens "(a]=>a" = .ok [⟨.sign "(", 1⟩, ⟨.word "a", 1⟩, ⟨.sign "]", 1⟩, ⟨.sign "=>", 1⟩,
        ⟨.word "a", 1⟩] ∧
      lower .javaScript "(a]=>a" = .ok "|a|a" ∧
      ¬Nested (marks [⟨.sign "(", 1⟩, ⟨.word "a", 1⟩, ⟨.sign "]", 1⟩, ⟨.sign "=>", 1⟩,
        ⟨.word "a", 1⟩]) ∧
      ¬∀ spot ∈ scriptSpots .javaScript "(a]=>a", Nested (marks (passedOver .javaScript spot)) := by
  have read : tokens "(a]=>a" = .ok [⟨.sign "(", 1⟩, ⟨.word "a", 1⟩, ⟨.sign "]", 1⟩,
      ⟨.sign "=>", 1⟩, ⟨.word "a", 1⟩] := by decide +kernel
  have done : lower .javaScript "(a]=>a" = .ok "|a|a" := by decide +kernel
  have apart : ¬Nested (marks [⟨.sign "(", 1⟩, ⟨.word "a", 1⟩, ⟨.sign "]", 1⟩, ⟨.sign "=>", 1⟩,
      ⟨.word "a", 1⟩]) := by decide
  exact ⟨read, done, apart, fun all => apart ((lower_nested_iff read done).2.mpr all)⟩

end ApiProbe.Script.Lowering
