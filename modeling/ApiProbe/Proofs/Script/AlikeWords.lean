import ApiProbe.Proofs.Script.AlikeStates
import ApiProbe.Proofs.Script.CarriedBreaks

/-!
Steps of the lowering side by side, over tokens that are alike: line ends, and the steps that words
begin, functions, loops, operands and commands among them.
-/
namespace ApiProbe.Script.Lowering
variable {strict : Prop}

/-- A last piece and the tokens to come: a comment up to the end of its line has that end behind it,
and a slash what may follow one. -/
structure Ready (strict : Prop) (tokens : List Token) (piece : String) : Prop where
  line : isLineMark piece.toList = true → ∀ next ∈ tokens.head?, next.kind = .newline
  slash : strict → piece = "/" → FollowsSlash tokens

theorem Firm.ready {piece : String} (firm : Firm piece) (tokens : List Token) :
    Ready strict tokens piece :=
  ⟨fun mark => absurd mark (Bool.eq_false_iff.mp firm.1), fun _ slash => absurd slash firm.2⟩

theorem Ready.fresh {token : Token} {rest : List Token} {piece : String}
    (ready : Ready strict (token :: rest) piece) (other : token.kind ≠ .newline) : Fresh piece :=
  Bool.eq_false_iff.mpr fun mark => other (ready.line mark token rfl)

theorem firm_lineEnd : Firm "\n" := firm_of_startsApart (by decide)

/-- What two steps over the tokens of two lists lead to. -/
structure SameNext (strict : Prop) (first second : List Token) (found found' : State × Nat) :
    Prop where
  state : SameState strict (Ready strict (first.drop found.2)) found.1 found'.1
  parted : Parted first second found.2 found'.2

theorem SameNext.of_firm {first second : List Token} {next next' : State} {m n : Nat}
    (same : SameState strict Firm next next') (parted : Parted first second m n) :
    SameNext strict first second (next, m) (next', n) :=
  ⟨same.mono fun _ firm => firm.ready _, parted⟩

/-- Two lowerings that are about to take the same token, which is no line end. -/
structure Abreast (strict : Prop) (language : Language) (state state' : State) (spot spot' : Spot) :
    Prop extends SameSpot spot spot' where
  states : SameState strict Fresh state state'
  proper : Proper strict language spot.rest
  proper' : Proper strict language spot'.rest

section Texts
variable {names name : String}

/-- Names that are words of some tokens. -/
theorem plain_names {tokens : List Token} (sound : ∀ token ∈ tokens, token.kind.Sound)
    {names : List String} (words : ∀ name ∈ names, ∃ token ∈ tokens, token.kind = .word name) :
    isPlain (", ".intercalate names) = true := by
  refine List.all_eq_true.mpr (forall_join (by simp [isPlainChar]) fun name member => ?_)
  obtain ⟨token, inside, kind⟩ := words name member
  have own := sound token inside
  rw [kind] at own
  exact List.all_eq_true.mp (plain_word own).1

theorem plain_bars (plain : isPlain names = true) :
    isPlain s!"|{names}|" = true ∧ startsApart s!"|{names}|" = true :=
  ⟨isPlain_append (isPlain_append (by decide) plain) (by decide),
    startsApart_append (startsApart_append (by decide) _) _⟩

theorem plain_head (plain : isPlain names = true) :
    isPlain (s!"|{names}| " ++ "\x7b") = true ∧ startsApart (s!"|{names}| " ++ "\x7b") = true :=
  ⟨isPlain_append (isPlain_append (isPlain_append (by decide) plain) (by decide)) (by decide),
    startsApart_append (startsApart_append (startsApart_append (by decide) _) _) _⟩

/-- A call that hands over a name and the text of it. -/
theorem twins_bound (plain : isPlain name = true) {word : String} (begins : isPlain word = true)
    (starts : startsApart word = true) :
    Twins strict (word ++ name ++ ", \"" ++ name ++ "\")")
      (word ++ name ++ ", \"" ++ name ++ "\")") := by
  have literal : IsLiteral strict ("\"" ++ name ++ "\"").toList := by
    have quoted : IsLiteral strict ('"' :: (name.toList ++ ['"'])) :=
      .string (isClosed_of_plain (List.all_eq_true.mp plain))
    simpa using quoted
  have front : isPlain (word ++ name ++ ", ") = true :=
    isPlain_append (isPlain_append begins plain) (by decide)
  have begun : Paired strict (word ++ name ++ ", ") (word ++ name ++ ", ") := .of_isPlain front
  have quoted := begun.append (.refl (.of_literal literal))
    (.of_endsApart (endsApart_of_isPlain front) _) (.of_endsApart (endsApart_of_isPlain front) _)
  have closing : Paired strict ")" ")" := .of_isPlain (by decide)
  have whole := quoted.append closing (.of_startsApart _ (by decide))
    (.of_startsApart _ (by decide))
  have same : word ++ name ++ ", \"" ++ name ++ "\")"
      = word ++ name ++ ", " ++ ("\"" ++ name ++ "\"") ++ ")" :=
    String.ext (by simp)
  have apart : startsApart (word ++ name ++ ", " ++ ("\"" ++ name ++ "\"") ++ ")") = true := by
    simp only [String.append_assoc]
    exact startsApart_append starts _
  rw [same]
  exact ⟨whole, ⟨apart, apart⟩, ⟨endsApart_right _ (by decide) (by decide),
    endsApart_right _ (by decide) (by decide)⟩, .inl rfl⟩

/-- The type of an operand. -/
theorem twins_typeOf {first second : String} (paired : Paired strict first second) :
    Twins strict s!"typeof({first})" s!"typeof({second})" := by
  have opening : Paired strict "typeof(" "typeof(" := .of_isPlain (by decide)
  have closing : Paired strict ")" ")" := .of_isPlain (by decide)
  have begun := opening.append paired (.of_endsApart (by decide) _) (.of_endsApart (by decide) _)
  have whole := begun.append closing (.of_startsApart _ (by decide)) (.of_startsApart _ (by decide))
  have starts (text : String) : startsApart ("typeof(" ++ text ++ ")") = true :=
    startsApart_append (startsApart_append (by decide) _) _
  have ends (text : String) : endsApart ("typeof(" ++ text ++ ")") = true :=
    endsApart_right _ (by decide) (by decide)
  have closes (text : String) : Closes ("typeof(" ++ text ++ ")") := by
    refine ⟨?_, fun same => ?_⟩
    · rw [String.toList_append, show ")".toList = [')'] from rfl, List.getLast?_concat]
    have head := congrArg (fun text => text.toList.head?) same
    simp at head
  exact ⟨whole, ⟨starts _, starts _⟩, ⟨ends _, ends _⟩, .inr ⟨closes _, closes _⟩⟩

/-- A call with one bare name. -/
theorem twins_boundCall {word call : String} {afterDot : Bool} {tokens : List Token}
    (sound : ∀ token ∈ tokens, token.kind.Sound)
    (is : boundCall? word afterDot tokens = some call) : Twins strict call call := by
  obtain ⟨opening, argument, closing, more, name, rfl, named, -, -, short⟩ :=
    boundCall?_some_iff.mp is
  have own := sound argument (by simp)
  rw [Token.kind_of_word? named] at own
  have plain := (plain_word own).1
  simp only [boundCall?, named] at short
  split at short
  · split at short
    · cases short
      exact twins_bound plain (by decide) (by decide)
    · split at short <;> cases short
      exact twins_bound plain (by decide) (by decide)
  · cases short

/-- The name of a property in the plain language. -/
theorem plain_property {word : String} (own : isPlain word = true ∧ startsApart word = true)
    (language : Language) (rest : List Token) :
    isPlain ((stringMethod? language word rest).getD (renamed word)) = true ∧
      startsApart ((stringMethod? language word rest).getD (renamed word)) = true := by
  cases is : stringMethod? language word rest with
  | none =>
    rw [Option.getD_none]
    unfold renamed
    split <;> first | decide | exact own
  | some method =>
    rw [Option.getD_some]
    unfold stringMethod? at is
    split at is
    · cases is
    · simp only at is
      split at is <;> cases is <;> decide

end Texts

section LineEnds
variable {top : String → Prop} {state state' : State} {spot spot' : Spot}

theorem needsSemicolon_alike (same : SameState strict top state state')
    (spots : SameSpot spot spot') : needsSemicolon state spot = needsSemicolon state' spot' := by
  have stands (kind : Kind) : endsStatement state kind = endsStatement state' kind := by
    unfold endsStatement
    rw [same.lastClosed]
  unfold needsSemicolon
  rw [spots.last?, spots.onNewLine, State.inStatements, State.inStatements, same.frames]
  rcases ahead?_alike spots.rest with ⟨is, is'⟩ | ⟨next, next', is, is', meets⟩
  · rw [is, is']
    cases spot'.last? <;> rfl
  · rw [is, is']
    cases spot'.last? with
    | none => rfl
    | some last => simp only [meets.same, stands]

theorem lineEnd_alike (same : SameState strict top state state') (spots : SameSpot spot spot')
    (firm : ∀ piece, Firm piece → top piece) :
    SameState strict Firm (lineEnd state spot) (lineEnd state' spot') := by
  have closed := same.closeCommands (firm _ (firm_of_startsApart (by decide)))
  unfold lineEnd
  simp only [needsSemicolon_alike closed spots]
  split
  · exact (closed.attach ";" (by decide) (by decide)
      (firm _ (firm_of_startsApart (by decide)))).lineEnd firm_lineEnd
  · exact closed.lineEnd firm_lineEnd

end LineEnds

theorem followsSlash_sign {token : Token} {text : String} (is : token.isSign text = true)
    (other : text ∉ slashTails) (rest : List Token) : FollowsSlash (token :: rest) := by
  have kind := Token.kind_of_isSign is
  have meant : token.isMeaningful = true := by
    rw [Token.isMeaningful, kind]
    rfl
  constructor
  · rintro _ ⟨⟩
    rw [kind]
    rfl
  · rw [meaningful_cons meant]
    rintro _ ⟨⟩ text member is'
    rw [kind] at is'
    cases is'
    exact other member

/-- What is left of proper tokens behind a meaningful one. -/
theorem Proper.ahead {tokens : List Token} {found : Ahead} (proper : Proper strict language tokens)
    (is : ahead? tokens = some found) :
    found.token.kind.Sound ∧ Proper strict language found.rest := by
  obtain ⟨passed, parts, -⟩ := ahead?_eq is
  rw [parts] at proper
  exact ⟨proper.sound found.token (by simp), proper.right.tail⟩

theorem Proper.aheadSign {tokens : List Token} {found : Ahead} {text : String}
    (proper : Proper strict language tokens) (is : aheadSign? tokens text = some found) :
    Proper strict language found.rest :=
  (proper.ahead (Option.filter_eq_some_iff.mp is).1).2

theorem Proper.inner {tokens inner after : List Token} {last : Token} {depth : Nat}
    (proper : Proper strict language tokens)
    (is : splitClosing? depth tokens = some (inner, last, after)) :
    Proper strict language inner ∧ Proper strict language after := by
  rw [(splitClosing?_eq is).1] at proper
  exact ⟨proper.left, proper.right.tail⟩

namespace Abreast
variable {language : Language} {state state' : State} {spot spot' : Spot}
  (abreast : Abreast strict language state state' spot spot')
include abreast

/-- A plain text in place of the token. -/
theorem emit {text : String} (plain : isPlain text = true) (starts : startsApart text = true) :
    SameNext strict spot.rest spot'.rest (state.emit text, 0) (state'.emit text, 0) :=
  .of_firm (abreast.states.emit_plain plain starts) (.zero abreast.rest)

/-- A text in place of the token and of some behind it. -/
theorem emit_skip {text text' : String} (twins : Twins strict text text') {m n : Nat}
    (parted : Parted spot.rest spot'.rest m n) :
    SameNext strict spot.rest spot'.rest (skip (state.emit text) (spot.rest.take m), m)
      (skip (state'.emit text') (spot'.rest.take n), n) :=
  .of_firm ((abreast.states.emit twins).skip parted.taken firm_lineEnd) parted

theorem fails {α : Type} {related : α → α → Prop} (fault : SyntaxFault) :
    Agree related (spot.fail fault) (spot'.fail fault) := by
  rw [abreast.fail]
  rfl

theorem arrowBody {names : String} (plain : isPlain names = true)
    {between between' after after' : List Token} (betweens : Alike between between')
    (afters : Alike after after') (parts : spot.rest = between ++ after)
    (parts' : spot'.rest = between' ++ after') :
    SameNext strict spot.rest spot'.rest (arrowBody state spot names between after)
      (arrowBody state' spot' names between' after') := by
  have known := abreast.states.addCallable spot.declaredName?
  have behind := Parted.of_append betweens afters
  obtain ⟨bars, starts⟩ := plain_bars plain
  obtain ⟨head, starts'⟩ := plain_head plain
  unfold Lowering.arrowBody
  rw [parts, parts', ← abreast.declaredName?]
  rcases aheadSign?_alike afters "\x7b" with ⟨is, is'⟩ | ⟨brace, brace', is, is', meets⟩
  · simp only [is, is']
    exact .of_firm ((known.emit_plain bars starts).skip betweens firm_lineEnd) behind
  · simp only [is, is', meets.same]
    refine .of_firm (((known.emit_plain head starts').skip
      (betweens.append meets.parted.1.taken) firm_lineEnd).push (by decide) _) ?_
    rw [Nat.add_assoc, Nat.add_assoc]
    refine behind.trans ?_
    rw [List.drop_left, List.drop_left]
    exact meets.parted.2

/-- The head of a function is written in both. -/
theorem functionOpened {name : Option String} {names : String} (plain : isPlain names = true)
    (word : ∀ text ∈ name, isPlain text = true) :
    SameState strict Firm (functionOpened state spot name names)
      (functionOpened state' spot' name names) := by
  obtain ⟨head, starts⟩ := plain_head plain
  unfold Lowering.functionOpened
  rw [← abreast.declaredName?, ← abreast.atStatementStart, ← abreast.token]
  have anonymous := (abreast.states.addCallable spot.declaredName?).emit_plain head starts
  cases name with
  | none => exact anonymous.push (by decide) _
  | some name =>
    simp only
    split
    · have plain' : isPlain (s!"let {name} = " ++ (s!"|{names}| " ++ "\x7b")) = true :=
        isPlain_append (isPlain_append (isPlain_append (by decide) (word name rfl)) (by decide)) head
      have starts' : startsApart (s!"let {name} = " ++ (s!"|{names}| " ++ "\x7b")) = true :=
        startsApart_append (startsApart_append (startsApart_append (by decide) _) _) _
      exact ((abreast.states.emit_plain plain' starts').addCallable _).push (by decide) _
    · exact anonymous.push (by decide) _

theorem function : Agree (SameNext strict spot.rest spot'.rest) (function state spot)
    (function state' spot') := by
  unfold Lowering.function
  refine Agree.bind abreast.functionStart ?_
  rintro ⟨name, opening⟩ ⟨_, opening'⟩ begins begins' ⟨rfl, meets⟩
  replace meets : Meets spot.rest spot'.rest opening opening' := meets
  obtain ⟨front, parts, -, -, -, words⟩ := functionStart_eq begins
  have behind : Proper strict language opening.rest := by
    have proper := abreast.proper
    rw [parts] at proper
    exact proper.right.tail
  simp only
  rcases splitClosing?_alike meets.rest 1 with ⟨is, is'⟩ | ⟨⟨inner, last, after⟩,
    ⟨inner', last', after'⟩, is, is', split⟩
  · simp only [is, is', meets.same]
    rfl
  simp only [is, is']
  have same : parameters inner = parameters inner' := by
    rw [← parameters_meaningful, split.inner.meaningful, parameters_meaningful]
  rw [← same]
  refine Agree.bind_same fun names known => ?_
  rcases aheadSign?_alike split.after "\x7b" with ⟨none_, none_'⟩ | ⟨brace, brace', one, two, braces⟩
  · simp only [none_, none_']
    exact abreast.fails _
  simp only [one, two]
  have plain := plain_names (behind.inner is).1.sound (parameters_clear known).2
  have opened := abreast.functionOpened plain fun text member => by
    obtain ⟨token, inside, kind⟩ := words text member
    have sound := abreast.proper.sound token inside
    rw [kind] at sound
    exact (plain_word sound).1
  have up := meets.parted_add (split.parted_add is is' braces.parted.1)
  have past := meets.parted_add (split.parted_add is is' braces.parted.2)
  simp only [← Nat.add_assoc] at up past
  exact .of_firm (opened.skip up.taken firm_lineEnd) past

section Loops
variable {opening opening' : Ahead} {inner inner' after after' : List Token} {last last' : Token}
  (meets : Meets spot.rest spot'.rest opening opening')
  (is : splitClosing? 1 opening.rest = some (inner, last, after))
  (is' : splitClosing? 1 opening'.rest = some (inner', last', after'))
  (split : SameSplit (inner, last, after) (inner', last', after'))
include meets is is' split

theorem countingLoop (proper : Proper strict language inner)
    (proper' : Proper strict language inner') :
    Agree (SameNext strict spot.rest spot'.rest) (countingLoop state spot opening inner)
      (countingLoop state' spot' opening' inner') := by
  have inners : Alike inner inner' := split.inner
  obtain ⟨heads, front, front', -, whole, whole'⟩ := loopHead_alike inners
  have own : Proper strict language (loopHead inner) := by
    rw [whole] at proper
    exact proper.right
  have own' : Proper strict language (loopHead inner') := by
    rw [whole'] at proper'
    exact proper'.right
  unfold Lowering.countingLoop
  rcases countingHead?_alike heads own own' with ⟨none_, none_'⟩ | ⟨text, text', one, two, twins⟩
  · simp only [none_, none_']
    exact abreast.fails _
  · simp only [one, two]
    have parted := meets.parted_add (split.parted_add is is' (.zero split.after))
    simp only [Nat.add_zero, ← Nat.add_assoc] at parted
    exact abreast.emit_skip twins parted

theorem itemLoop {name word : String} (plain : isPlain name = true) :
    SameNext strict spot.rest spot'.rest (itemLoop language state spot opening inner name word)
      (itemLoop language state' spot' opening' inner' name word) := by
  have head : isPlain s!"for {name} in " = true ∧ startsApart s!"for {name} in " = true :=
    ⟨isPlain_append (isPlain_append (by decide) plain) (by decide),
      startsApart_append (startsApart_append (by decide) _) _⟩
  have begun := abreast.states.emit_plain head.1 head.2
  obtain ⟨within, short, short'⟩ := beforeItems_alike split.inner
  have parted : Parted spot.rest spot'.rest (opening.passed + 1 + beforeItems inner)
      (opening'.passed + 1 + beforeItems inner') := by
    refine meets.parted_add ?_
    rw [(splitClosing?_eq is).1, (splitClosing?_eq is').1]
    have closing : Alike (last :: after) (last' :: after') := by
      obtain rfl : last = last' := split.last
      exact .cons (isGap_of_isClosing (splitClosing?_eq is).2) split.after
    exact within.append short short' closing
  unfold beforeItems at parted
  rw [← Nat.add_assoc, ← Nat.add_assoc] at parted
  unfold Lowering.itemLoop
  simp only [meets.same]
  refine .of_firm (SameState.skip ?_ parted.taken firm_lineEnd) parted
  split
  · exact (begun.fresh.emit_plain (by decide) (by decide)).push (by decide) _
  · exact begun.push (by decide) _

end Loops

theorem forLoop : Agree (SameNext strict spot.rest spot'.rest) (forLoop language state spot)
    (forLoop language state' spot') := by
  unfold Lowering.forLoop
  rcases aheadSign?_alike abreast.rest "(" with ⟨is, is'⟩ | ⟨opening, opening', is, is', meets⟩
  · simp only [is, is']
    exact abreast.emit (by decide) (by decide)
  simp only [is, is']
  rcases splitClosing?_alike meets.rest 1 with ⟨none_, none_'⟩ | ⟨⟨inner, last, after⟩,
    ⟨inner', last', after'⟩, one, two, split⟩
  · simp only [none_, none_', meets.same]
    rfl
  simp only [one, two]
  have proper := ((abreast.proper.aheadSign is).inner one).1
  have proper' := ((abreast.proper'.aheadSign is').inner two).1
  have counts := abreast.countingLoop meets one two split proper proper'
  have inners : Alike inner inner' := split.inner
  obtain ⟨heads, front, -, -, whole, -⟩ := loopHead_alike inners
  rw [← heads.meaningful]
  split
  · rename_i name keyword other more parts
    split
    · rename_i text word named _
      have inside : name ∈ loopHead inner :=
        (List.mem_filter.mp (by rw [← meaningful, parts]; simp)).1
      have sound := proper.sound name (by rw [whole]; exact List.mem_append_right _ inside)
      rw [Token.kind_of_word? named] at sound
      split
      · exact abreast.itemLoop meets one two split (plain_word sound).1
      · exact counts
    · exact counts
  · exact counts


theorem typeOf : Agree (SameNext strict spot.rest spot'.rest) (typeOf state spot)
    (typeOf state' spot') := by
  unfold Lowering.typeOf
  have next : Both (Meets spot.rest spot'.rest)
      ((ahead? spot.rest).filter fun found => found.token.word?.isSome)
      ((ahead? spot'.rest).filter fun found => found.token.word?.isSome) :=
    (ahead?_alike abreast.rest).filter fun found found' meets => by rw [meets.same]
  rcases next with ⟨is, is'⟩ | ⟨first, first', is, is', meets⟩
  · simp only [is, is']
    exact abreast.fails _
  simp only [is, is']
  obtain ⟨-, paths, more, more', parts, parts', rests⟩ := memberPath_alike meets.rest
  have own : Proper strict language (first.token :: memberPath first.rest) := by
    have behind := abreast.proper.drop first.passed
    rw [meets.drop.1, parts, ← List.cons_append] at behind
    exact behind.left
  have own' : Proper strict language (first'.token :: memberPath first'.rest) := by
    have behind := abreast.proper'.drop first'.passed
    rw [meets.drop.2, parts', ← List.cons_append] at behind
    exact behind.left
  have operands : Alike (first.token :: memberPath first.rest)
      (first'.token :: memberPath first'.rest) := by
    rw [← meets.same]
    exact .cons (Token.isGap_of_isMeaningful meets.meant) paths
  refine abreast.emit_skip (twins_typeOf (paired_render operands own.sound own'.sound
    fun strict_ => ⟨own.orderly strict_, own'.orderly strict_⟩)) ?_
  have parted := Parted.of_append paths rests
  rw [← parts, ← parts'] at parted
  have whole := meets.parted_add parted
  rwa [Nat.add_assoc, Nat.add_assoc, Nat.add_comm 1, Nat.add_comm 1] at whole

theorem newError : Agree (SameNext strict spot.rest spot'.rest) (newError state spot)
    (newError state' spot') := by
  unfold Lowering.newError
  have next : Both (Meets spot.rest spot'.rest)
      ((ahead? spot.rest).filter fun found =>
        (found.token.word?.map isErrorName) == some true)
      ((ahead? spot'.rest).filter fun found =>
        (found.token.word?.map isErrorName) == some true) :=
    (ahead?_alike abreast.rest).filter fun found found' meets => by rw [meets.same]
  rcases next with ⟨is, is'⟩ | ⟨name, name', is, is', meets⟩
  · simp only [is, is']
    exact abreast.fails _
  simp only [is, is']
  rcases aheadSign?_alike meets.rest "(" with ⟨none_, none_'⟩ | ⟨opening, opening', one, two, opens⟩
  · simp only [none_, none_']
    exact abreast.fails _
  simp only [one, two]
  -- Nothing is written, so the parenthesis comes behind the piece that was last before.
  obtain ⟨-, -, -, -, sign⟩ := aheadSign?_eq one
  have both := meets.trans opens
  refine ⟨?_, both.parted.1⟩
  simp only [both.drop.1]
  refine (abreast.states.skip both.parted.1.taken firm_lineEnd.1).mono fun piece fresh => ?_
  exact ⟨fun mark => absurd mark (Bool.eq_false_iff.mp fresh),
    fun _ _ => followsSlash_sign sign (by decide) _⟩

theorem command {word : String} (plain : isPlain word = true) (starts : startsApart word = true) :
    Agree (SameNext strict spot.rest spot'.rest) (command state spot word)
      (command state' spot' word) := by
  have begun := abreast.states.emit_plain plain starts
  unfold Lowering.command
  rw [← abreast.token]
  rcases aheadOnLine?_alike abreast.rest with ⟨is, is'⟩ | ⟨next, next', is, is', meets⟩
  · simp only [is, is']
    refine SameNext.of_firm ?_ (.zero abreast.rest)
    split
    · exact begun.fresh.emit_plain (by decide) (by decide)
    · exact begun
  · simp only [is, is', meets.same]
    split
    · exact abreast.emit plain starts
    · exact SameNext.of_firm ((begun.fresh.emit_plain (by decide) (by decide)).push (by decide) _)
        meets.parted.1

theorem name {word : String} (plain : isPlain word = true) (starts : startsApart word = true) :
    SameNext strict spot.rest spot'.rest (name language state spot word)
      (name language state' spot' word) := by
  have call : isPlain s!"{word}.call" = true ∧ startsApart s!"{word}.call" = true :=
    ⟨isPlain_append plain (by decide), startsApart_append starts _⟩
  have next : nextIs spot.rest "(" = nextIs spot'.rest "(" := by
    rw [nextIs, nextIs]
    rcases aheadSign?_alike abreast.rest "(" with ⟨is, is'⟩ | ⟨_, _, is, is', -⟩ <;>
      simp [is, is']
  have arrows : Both (Meets spot.rest spot'.rest)
      (if language == .javaScript then aheadSign? spot.rest "=>" else none)
      (if language == .javaScript then aheadSign? spot'.rest "=>" else none) := by
    split
    · exact aheadSign?_alike abreast.rest "=>"
    · exact .inl ⟨rfl, rfl⟩
  unfold Lowering.name
  rcases arrows with ⟨is, is'⟩ | ⟨arrow, arrow', is, is', meets⟩
  · simp only [is, is', next, abreast.states.callables]
    split
    · exact abreast.emit call.1 call.2
    · exact abreast.emit plain starts
  · simp only [is, is']
    refine abreast.arrowBody plain meets.parted.2.taken meets.rest ?_ ?_
    · rw [← meets.drop_succ.1, List.take_append_drop]
    · rw [← meets.drop_succ.2, List.take_append_drop]

theorem keyword {word : String} (sound : (Kind.word word).Sound) :
    Agree (SameNext strict spot.rest spot'.rest) (keyword language state spot word)
      (keyword language state' spot' word) := by
  obtain ⟨plain, starts⟩ := plain_word sound
  have truthy : isPlain s!"{word} truthy" = true ∧ startsApart s!"{word} truthy" = true :=
    ⟨isPlain_append plain (by decide), startsApart_append starts _⟩
  have conditions : Both (Meets spot.rest spot'.rest)
      (if word == "if" || word == "while" then aheadSign? spot.rest "(" else none)
      (if word == "if" || word == "while" then aheadSign? spot'.rest "(" else none) := by
    split
    · exact aheadSign?_alike abreast.rest "("
    · exact .inl ⟨rfl, rfl⟩
  unfold Lowering.keyword
  refine .ite (fun _ => abreast.emit (by decide) (by decide)) fun _ => ?_
  refine .ite (fun _ => abreast.emit (by decide) (by decide)) fun _ => ?_
  refine .ite (fun _ => abreast.fails _) fun _ => ?_
  refine .ite (fun _ => abreast.fails _) fun _ => ?_
  refine .ite (fun _ => abreast.function) fun _ => ?_
  refine .ite (fun _ => abreast.forLoop) fun _ => ?_
  refine .ite (fun _ => abreast.typeOf) fun _ => ?_
  refine .ite (fun _ => abreast.newError) fun _ => ?_
  refine .ite (fun _ => abreast.command plain starts) fun _ => ?_
  rcases conditions with ⟨is, is'⟩ | ⟨opening, opening', is, is', meets⟩
  · simp only [is, is']
    exact abreast.name plain starts
  · simp only [is, is']
    exact abreast.emit_skip (.of_isPlain truthy.1 truthy.2) meets.parted.1

theorem word {text : String} (sound : (Kind.word text).Sound) :
    Agree (SameNext strict spot.rest spot'.rest) (word language state spot text)
      (word language state' spot' text) := by
  obtain ⟨plain, starts⟩ := plain_property (plain_word sound) language spot.rest
  have calls : (if ["expect", "equal", "equals"].contains text then
        boundCall? text spot.afterDot spot.rest else none)
      = if ["expect", "equal", "equals"].contains text then
        boundCall? text spot'.afterDot spot'.rest else none := by
    rw [← abreast.afterDot, boundCall?_alike abreast.rest]
  unfold Lowering.word
  rw [← calls, ← abreast.afterDot, ← stringMethod?_alike language text abreast.rest]
  simp only
  split
  · rename_i call bound
    have is : boundCall? text spot.afterDot spot.rest = some call := by
      split at bound
      · exact bound
      · cases bound
    exact .of_firm (abreast.states.emit (twins_boundCall abreast.proper.sound is))
      (boundCall?_parted abreast.rest is)
  · split
    · exact abreast.emit plain starts
    · exact abreast.keyword sound

end Abreast

end ApiProbe.Script.Lowering
