import ApiProbe.Proofs.Script.CarriedBreaks

/-!
Line ends around brackets and signs, and in the heads of loops.
-/
namespace ApiProbe.Script.Lowering

variable {state next : State} {spot : Spot} {taken : Nat}

/-!
### Brackets

What opens or closes a bracket is written on one line, and what is passed over on the way into a closure,
an arrow function or an empty map is bare.
-/

/-- The empty map is a colon among blanks, and the bracket behind it. -/
theorem emptyMap?_eq {rest : List Token} (is : emptyMap? rest = some taken) :
    ∃ front last more, rest = front ++ last :: more ∧ front.length + 1 = taken ∧ Clear front ∧
      last.isSign "]" = true := by
  simp only [emptyMap?, bind, Option.bind_eq_some_iff, Option.some.injEq] at is
  obtain ⟨colon, one, last, two, rfl⟩ := is
  obtain ⟨passed, parts, long, blank, sign⟩ := aheadSign?_eq one
  obtain ⟨passed', parts', long', blank', sign'⟩ := aheadSign?_eq two
  refine ⟨passed ++ colon.token :: passed', last.token, last.rest, ?_, ?_, ?_, sign'⟩
  · rw [parts, parts']
    simp
  · simp [long, long']
    omega
  · exact blank.clear.append (.cons (clear_sign sign) blank'.clear)

theorem openBracket_carries {language : Language}
    (done : openBracket language state spot = .ok (next, taken)) :
    Carries state spot (next, taken) := by
  have plain : Writes state ((state.emit "[").push .bracket "]" spot.token.line) 0 :=
    ((Writes.refl state).emit (by decide)).push _ _ (by decide)
  unfold openBracket at done
  split at done
  · split at done
    · rename_i n empty
      cases done
      obtain ⟨front, last, more, parts, rfl, clear, sign⟩ := emptyMap?_eq empty
      have bare : Bare (front ++ [last]) := clear.bare.append (.cons (bare_sign sign) bare_nil)
      have whole : spot.rest = (front ++ [last]) ++ more := by
        rw [parts, List.append_assoc, List.singleton_append]
      exact carries_skip ((Writes.refl state).emit (by decide)) whole bare (by simp)
    · split at done
      · cases done
      · split at done
        · cases done
          exact ((Writes.refl state).emit (by decide)).push _ _ (by decide)
        · cases done
          exact plain
  · cases done
    exact plain

theorem openParen_carries {language : Language} (neat : Neat spot.rest)
    (done : openParen language state spot = .ok (next, taken)) :
    Carries state spot (next, taken) := by
  have plain : Writes state ((state.emit "(").push .paren ")" spot.token.line) 0 :=
    ((Writes.refl state).emit (by decide)).push _ _ (by decide)
  unfold openParen at done
  simp only at done
  split at done
  · cases done
    exact plain
  split at done
  · cases done
  rename_i inner closing after encloses
  obtain ⟨parts, closes⟩ := splitClosing?_eq encloses
  split at done
  · cases done
    exact plain
  rename_i arrow found
  obtain ⟨passed, behind, long, clear'⟩ := arrow_ahead found
  cases known : parameters inner with
  | error error =>
    rw [known] at done
    cases done
  | ok names =>
    rw [known] at done
    have same : arrowBody state spot (", ".intercalate names)
        (spot.rest.take (inner.length + 1 + arrow.passed + 1)) arrow.rest = (next, taken) :=
      Except.ok.inj done
    obtain ⟨clear, words⟩ := parameters_clear known
    have whole : spot.rest = (inner ++ closing :: passed) ++ arrow.rest := by
      rw [parts, behind]
      simp
    have between : spot.rest.take (inner.length + 1 + arrow.passed + 1)
        = inner ++ closing :: passed := by
      rw [whole]
      exact List.take_left' (by simp [long]; omega)
    rw [← same, between]
    have within : Neat inner := fun token member => neat token (by rw [parts]; simp [member])
    have passes : Bare (inner ++ closing :: passed) :=
      clear.bare.append (.cons (bare_of_isClosing closes) clear'.bare)
    exact arrowBody_carries (within.flat_names words) passes whole

theorem closureOpened_writes {head : String} (flat : Flat head) :
    Writes state (closureOpened state spot head) 0 := by
  unfold closureOpened
  simp only
  split
  · rename_i output is
    have reopened : state.output.reopen? = some output := by
      split at is
      · exact is
      · cases is
    have again : Writes state { state with output } 0 :=
      fun neat => ⟨neat, Output.breaks_reopen? reopened⟩
    have separator : Flat (if output.endsOpen then "" else ", ") := by split <;> decide
    have separated : Flat ((if output.endsOpen then "" else ", ") ++ head) :=
      flat_append separator flat
    exact (again.emit separated).push _ _ (by decide)
  · split
    · exact ((Writes.refl state).emit (flat_append (by decide) flat)).push _ _ (by decide)
    · exact (((Writes.refl state).addCallable _).emit flat).push _ _ (by decide)

/-- The parameters of a closure take up words, commas and an arrow. -/
theorem closureParameters_clear {inner : List Token} {names : String}
    (is : closureParameters spot inner = (names, taken)) :
    Clear (inner.take taken) ∧ taken ≤ inner.length := by
  unfold closureParameters at is
  split at is
  · rename_i found _ closed
    cases is
    obtain ⟨clear, short, -⟩ := closureHead?_take closed
    exact ⟨clear, short⟩
  · cases is
    exact ⟨clear_nil, Nat.zero_le _⟩

theorem closureParameters_flat {inner : List Token} {names : String} (neat : Neat inner)
    (is : closureParameters spot inner = (names, taken)) :
    Flat names := by
  unfold closureParameters at is
  split at is
  · rename_i found _ closed
    cases is
    obtain ⟨-, -, words⟩ := closureHead?_take closed
    exact neat.flat_names words
  · cases is
    split <;> decide

theorem closure_carries (neat : Neat spot.rest) (done : closure state spot = .ok (next, taken)) :
    Carries state spot (next, taken) := by
  unfold closure at done
  split at done
  · cases done
  rename_i inner closing after encloses
  obtain ⟨parts, -⟩ := splitClosing?_eq encloses
  cases parameters : closureParameters spot inner with
  | mk names n =>
    obtain ⟨clear, short⟩ := closureParameters_clear parameters
    have flat : Flat names := closureParameters_flat
      (fun token member => neat token (by rw [parts]; simp [member])) parameters
    rw [parameters] at done
    cases done
    refine ((closureOpened_writes (flat_head flat)).skip_bare ?_).cast (Nat.zero_add _)
    rw [parts, List.take_append_of_le_length short]
    exact clear.bare

theorem openBrace_carries {language : Language} (neat : Neat spot.rest)
    (done : openBrace language state spot = .ok (next, taken)) :
    Carries state spot (next, taken) := by
  have block : Writes state ((state.emit "\x7b").push .block "\x7d" spot.token.line) 0 :=
    ((Writes.refl state).emit (by decide)).push _ _ (by decide)
  unfold openBrace at done
  split at done
  · split at done
    · cases done
      exact block
    · exact closure_carries neat done
  · split at done
    · cases done
      exact ((Writes.refl state).emit (by decide)).push _ _ (by decide)
    · cases done
      exact block

theorem close_carries {sign : String} (done : close state spot sign = .ok (next, taken)) :
    Carries state spot (next, taken) := by
  unfold close at done
  simp only at done
  split at done
  · cases done
  rename_i frame frames held
  split at done
  · cases done
    intro neat
    obtain ⟨kept, same⟩ := Writes.closeCommands state neat
    have flat : Flat frame.close := kept frame (by rw [held]; exact List.mem_cons_self)
    have removed : Writes state.closeCommands
        { state.closeCommands with frames, lastClosed := some frame.kind } 0 :=
      fun closed => ⟨fun other member => closed other
        (by rw [held]; exact List.mem_cons_of_mem _ member), rfl⟩
    exact (((Writes.closeCommands state).trans removed).emit flat) neat
  · cases done

theorem sign_carries {language : Language} {text : String} (flat : Flat text)
    (neat : Neat spot.rest) (done : sign language state spot text = .ok (next, taken)) :
    Carries state spot (next, taken) := by
  have written {other : String} (line : Flat other) : Carries state spot (state.emit other, 0) :=
    (Writes.refl state).emit line
  unfold sign at done
  split at done
  case h_3 => exact openBrace_carries neat done
  case h_4 => exact openParen_carries neat done
  case h_5 => exact openBracket_carries done
  case h_6 | h_7 | h_8 => exact close_carries done
  case h_9 =>
    cases done
    exact (Writes.closeCommands state).emit (by decide)
  case h_10 | h_11 =>
    unfold stepSign at done
    split at done
    · cases done
      exact written (by decide)
    · cases done
  case h_12 | h_13 | h_14 => cases done
  case h_1 | h_2 =>
    cases done
    exact written (by decide)
  case h_15 =>
    repeat' split at done
    all_goals cases done
    all_goals first | exact written (by decide) | exact written flat

/-!
### Loops

A loop over items carries over the line ends of the tokens it takes; a counting loop writes the templates in
its bounds and their line ends once more.
-/

/-- What stands in the parentheses of a loop that counts. -/
def countingBounds (rest : List Token) : List Token :=
  match aheadSign? rest "(" with
  | none => []
  | some opening =>
    match splitClosing? 1 opening.rest with
    | none => []
    | some (inner, _, _) => if (countingHead? (loopHead inner)).isSome then inner else []

private theorem clear_of_words {tokens : List Token}
    (words : ∀ token ∈ meaningful tokens, ∃ text, token.word? = some text) : Clear tokens := by
  refine clear_of_meaningful fun token member => ?_
  obtain ⟨text, word⟩ := words token member
  exact clear_word word

theorem loopHead_eq (inner : List Token) :
    ∃ front, inner = front ++ loopHead inner ∧ Clear front := by
  unfold loopHead
  simp only
  split
  · rename_i declared
    obtain ⟨front, parts, kept⟩ := dropMeaningful_eq 1 inner
    refine ⟨front, parts, clear_of_words fun token member => ?_⟩
    rw [kept] at member
    cases inside : meaningful inner with
    | nil => simp [inside] at member
    | cons first rest =>
      rw [inside] at member declared
      cases List.mem_singleton.mp member
      cases word : token.word? with
      | none => simp [isDeclaring, word] at declared
      | some text => exact ⟨text, rfl⟩
  · exact ⟨[], rfl, clear_nil⟩

theorem loopHead_subset (inner : List Token) : loopHead inner ⊆ inner := by
  obtain ⟨front, parts, -⟩ := loopHead_eq inner
  intro token member
  rw [parts]
  exact List.mem_append_right _ member

/-- A loop over items has a word where a counting loop has its first equals sign. -/
theorem countingHead?_of_words {head rest : List Token} {name keyword : Token} {text : String}
    (shape : meaningful head = name :: keyword :: rest) (word : keyword.word? = some text) :
    countingHead? head = none := by
  cases counts : countingHead? head with
  | none => rfl
  | some _ =>
    obtain ⟨parts, heads⟩ := countingHead?_eq counts
    obtain ⟨assigned, second, sign⟩ := heads.assigns
    rw [shape] at second
    cases second
    have kind := Token.kind_of_isSign sign
    rw [Token.kind_of_word? word] at kind
    cases kind

/-- The head of a counting loop is written with its bounds, and what it was is skipped. -/
theorem counting_writes {inner front rest : List Token} {closing : Token} {text : String}
    (neat : Neat inner) (bare : Bare front) (counts : countingHead? (loopHead inner) = some text)
    (closes : isClosing closing = true) (parts : spot.rest = front ++ inner ++ closing :: rest)
    (long : taken = front.length + inner.length + 1) :
    Writes state (skip (state.emit text) (spot.rest.take taken))
      (breaksIn (spot.rest.take taken) + templateBreaks inner) := by
  obtain ⟨declared, whole, clearDeclared⟩ := loopHead_eq inner
  have bareDeclared := clearDeclared.bare
  obtain ⟨head, heads⟩ := countingHead?_eq counts
  have neatHead : Neat (loopHead inner) :=
    fun token member => neat token (loopHead_subset inner member)
  have neatFirst : Neat head.first :=
    fun token member => neatHead token (by rw [heads.whole]; simp [member])
  have neatLast : Neat head.last :=
    fun token member => neatHead token (by rw [heads.whole]; simp [member])
  have written : text.toList.count '\n'
      = (render head.first).toList.count '\n' + (render head.last).toList.count '\n' := by
    have name := List.count_eq_zero.mpr (neatHead.flat_word heads.named)
    have range : head.range.toList.count '\n' = 0 := by
      rcases heads.range with same | same <;> rw [same] <;> rfl
    rw [heads.written]
    change ("for " ++ head.name ++ " in (" ++ render head.first ++ ")" ++ head.range ++ "("
      ++ render head.last ++ ")").toList.count '\n' = _
    simp [name, range]
  have took : spot.rest.take taken = front ++ inner ++ [closing] := by
    rw [parts, long, ← List.length_append, List.take_append, List.take_of_length_le (by omega)]
    simp
  -- Only the bounds are both rendered and skipped; all else is bare, so skipping keeps its line ends.
  have lower := rendered_and_skipped neatFirst
  have upper := rendered_and_skipped neatLast
  refine ((Writes.emit_count state _).trans (Writes.skipped _ _)).cast ?_
  rw [written, took, whole, heads.whole]
  simp only [skippedBreaks_append, templateBreaks_append, breaksIn_append,
    skippedBreaks_bare bare, skippedBreaks_bare bareDeclared, skippedBreaks_bare heads.front,
    skippedBreaks_bare heads.middle, skippedBreaks_bare heads.step,
    skippedBreaks_bare (Bare.cons (bare_of_isClosing closes) bare_nil),
    templateBreaks_bare bareDeclared, templateBreaks_bare heads.front,
    templateBreaks_bare heads.middle, templateBreaks_bare heads.step]
  omega

theorem blanks_ahead (body : List Token) :
    ∃ blank more, body = blank ++ more ∧ Blank blank ∧
      blank.length = ((ahead? body).map Ahead.passed).getD 0 := by
  cases found : ahead? body with
  | none => exact ⟨[], body, rfl, (fun _ member => by cases member), rfl⟩
  | some next =>
    obtain ⟨passed, parts, long, blank, -⟩ := ahead?_eq found
    exact ⟨passed, next.token :: next.rest, parts, blank, long⟩

/-- What stands in front of the items of a loop: words and blanks. -/
theorem itemsHead_eq {inner more : List Token} {name keyword : Token} {first second : String}
    (shape : meaningful (loopHead inner) = name :: keyword :: more)
    (word : name.word? = some first) (word' : keyword.word? = some second) :
    ∃ front, inner = front ++ dropMeaningful 2 (loopHead inner) ∧ Clear front := by
  obtain ⟨declared, whole, clear⟩ := loopHead_eq inner
  obtain ⟨front, parts, kept⟩ := dropMeaningful_eq 2 (loopHead inner)
  refine ⟨declared ++ front, ?_, clear.append (clear_of_meaningful ?_)⟩
  · rw [List.append_assoc, ← parts, ← whole]
  · rw [kept, shape]
    exact .cons (clear_word word) (.cons (clear_word word') clear_nil)

theorem itemLoop_carries (language : Language) {opening : Ahead} {inner front rest more : List Token}
    {name keyword : Token} {first second : String} (neat : Neat inner) (bare : Bare front)
    (shape : meaningful (loopHead inner) = name :: keyword :: more)
    (word : name.word? = some first) (word' : keyword.word? = some second)
    (parts : spot.rest = front ++ inner ++ rest) (long : front.length = opening.passed + 1) :
    Carries state spot (itemLoop language state spot opening inner first second) := by
  obtain ⟨head, behind, clearHead⟩ := itemsHead_eq shape word word'
  obtain ⟨blank, items, body, idle, short⟩ := blanks_ahead (dropMeaningful 2 (loopHead inner))
  have present : name ∈ meaningful (loopHead inner) := by simp [shape]
  have flat : Flat first := neat.flat_word
    ⟨name, loopHead_subset inner (List.mem_filter.mp present).1, Token.kind_of_word? word⟩
  have begun : Writes state (state.emit s!"for {first} in ") 0 :=
    (Writes.refl state).emit (flat_append (flat_append (by decide) flat) (by decide))
  have opened : Writes state
      (if second == "in" && language == .javaScript then
        ((state.emit s!"for {first} in ").emit "(").push .paren ").keys()" opening.token.line
      else (state.emit s!"for {first} in ").push .paren "" opening.token.line) 0 := by
    split
    · exact (begun.emit (by decide)).push _ _ (by decide)
    · exact begun.push _ _ (by decide)
  have whole : spot.rest = (front ++ head ++ blank) ++ (items ++ rest) := by
    rw [parts, behind]
    conv_lhs => rw [body]
    simp
  refine carries_skip opened whole ((bare.append clearHead.bare).append idle.bare) ?_
  have counted := congrArg List.length behind
  simp only [List.length_append] at counted ⊢
  omega

theorem forLoop_writes {language : Language} (neat : Neat spot.rest)
    (done : forLoop language state spot = .ok (next, taken)) :
    Writes state next
      (breaksIn (spot.rest.take taken) + templateBreaks (countingBounds spot.rest)) := by
  unfold forLoop at done
  split at done
  · rename_i absent
    cases done
    rw [countingBounds, absent]
    exact (Writes.refl state).emit (by decide)
  rename_i opening found
  obtain ⟨passed, parts, long, blank, sign⟩ := aheadSign?_eq found
  split at done
  · cases done
  rename_i inner closing after encloses
  obtain ⟨parts', closes⟩ := splitClosing?_eq encloses
  have bounds : countingBounds spot.rest
      = if (countingHead? (loopHead inner)).isSome then inner else [] := by
    rw [countingBounds, found]
    simp only [encloses]
  have whole : spot.rest = (passed ++ [opening.token]) ++ inner ++ closing :: after := by
    rw [parts, parts']
    simp
  have neatInner : Neat inner := fun token member => neat token (by rw [whole]; simp [member])
  have bare : Bare (passed ++ [opening.token]) :=
    blank.bare.append (.cons (bare_sign sign) bare_nil)
  have counting (ok : countingLoop state spot opening inner = .ok (next, taken)) :
      Writes state next
        (breaksIn (spot.rest.take taken) + templateBreaks (countingBounds spot.rest)) := by
    unfold countingLoop at ok
    split at ok
    · rename_i text counts
      cases ok
      rw [bounds, counts]
      exact counting_writes neatInner bare counts closes whole (by simp [long])
    · cases ok
  split at done
  · rename_i name keyword _ _ shape
    split at done
    · rename_i first second word word'
      split at done
      · cases done
        -- The word behind the name rules out a counting loop, so nothing is gained.
        rw [bounds, countingHead?_of_words shape word']
        exact itemLoop_carries language neatInner bare shape word word' whole (by simp [long])
      · exact counting done
    · exact counting done
  · exact counting done

end ApiProbe.Script.Lowering
