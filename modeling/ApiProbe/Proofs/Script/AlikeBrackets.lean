import ApiProbe.Proofs.Script.AlikeWords
import ApiProbe.Proofs.Script.BracketBreaks

/-!
Steps of the lowering side by side: those that signs begin, and with them a step of any kind. They lead
to the same unless a comment keeps a closure from the call in front of it.
-/
namespace ApiProbe.Script.Lowering
variable {strict : Prop}

/-- Pieces behind which a slash can stand, too. -/
def Cleared (strict : Prop) (piece : String) : Prop := Fresh piece ∧ (strict → piece ≠ "/")

theorem Cleared.precedes {piece : String} (cleared : Cleared strict piece) (text : String) :
    Precedes strict piece text :=
  ⟨fun mark => absurd mark (Bool.eq_false_iff.mp cleared.1),
    fun strict_ slash => absurd slash (cleared.2 strict_)⟩

theorem Firm.cleared {piece : String} (firm : Firm piece) : Cleared strict piece :=
  ⟨firm.1, fun _ => firm.2⟩

theorem Ready.cleared {token : Token} {rest : List Token} {piece text : String}
    (ready : Ready strict (token :: rest) piece) (is : token.kind = .sign text)
    (tail : text ∈ slashTails) : Cleared strict piece := by
  refine ⟨ready.fresh (by simp [is]), fun strict_ slash => ?_⟩
  have meant : token.isMeaningful = true := by
    rw [Token.isMeaningful, is]
    rfl
  have next := (ready.slash strict_ slash).2
  rw [meaningful_cons meant] at next
  exact next token rfl text tail is

theorem Output.joins_eq (output : Output) :
    output.joins = (beforeClosing? output.pieces).map opensLast := by
  rw [joins, reopen?_eq, Option.map_map]
  rfl

theorem Output.pieces_withoutAsides (output : Output) :
    output.withoutAsides.pieces = Lowering.withoutAsides output.pieces := by
  rw [pieces, pieces, Lowering.withoutAsides, List.filter_append]
  rfl

/-- True of a closure that a comment on one line keeps from the call in front of it: without the
comments that are written already, the output would be joined in another way. -/
def interrupted (language : Language) (state : State) (spot : Spot) : Bool :=
  language == .groovy && spot.token.isSign "\x7b" && !opensBlock spot && spot.lastIsSign [")"]
    && state.output.joins != state.output.withoutAsides.joins

theorem closureParameters_plain {spot : Spot} {inner : List Token}
    (sound : ∀ token ∈ inner, token.kind.Sound) :
    isPlain (closureParameters spot inner).1 = true := by
  unfold closureParameters
  split
  · rename_i names taken closed
    exact plain_names sound (closureHead?_take closed).2.2
  · simp only
    split <;> decide

/-- Numbers start with a digit, whatever is taken from their end. -/
theorem plain_numberText {text : String} (sound : (Kind.number text).Sound) (language : Language) :
    isPlain (numberText language text) = true ∧ startsApart (numberText language text) = true := by
  obtain ⟨plain, starts⟩ := plain_number sound
  obtain ⟨c, rest, same, digit, -⟩ := sound
  unfold numberText
  simp only
  split
  · have noLetter : ∀ d ∈ "LlGgDdFf".toList, d.isDigit = false := by simp
    have stays : "LlGgDdFf".toList.contains c = false := by
      refine Bool.eq_false_iff.mpr fun is => ?_
      rw [noLetter c (List.contains_iff_mem.mp is)] at digit
      cases digit
    have kept : ∃ more,
        (text.toList.reverse.dropWhile fun c => "LlGgDdFf".toList.contains c).reverse
          = c :: more := by
      rw [same, List.reverse_cons, List.dropWhile_append]
      split
      · exact ⟨[], by rw [List.dropWhile_cons_of_neg (by simpa using stays)]; rfl⟩
      · exact ⟨_, by rw [List.reverse_append]; rfl⟩
    constructor
    · rw [isPlain, String.toList_ofList]
      refine List.all_eq_true.mpr fun d member => List.all_eq_true.mp plain d ?_
      exact List.mem_reverse.mp ((List.dropWhile_suffix _).subset (List.mem_reverse.mp member))
    · obtain ⟨more, is⟩ := kept
      rw [startsApart, String.toList_ofList, is]
      rwa [startsApart, same] at starts
  · exact ⟨plain, starts⟩

namespace SameState
variable {top : String → Prop} {state state' : State}

/-- The innermost bracket is closed. -/
theorem pop (same : SameState strict top state state') {frame : Frame} {frames : List Frame}
    (is : state.frames = frame :: frames) :
    SameState strict top { state with frames, lastClosed := some frame.kind }
      { state' with frames, lastClosed := some frame.kind } :=
  { same with
    frames := rfl
    lastClosed := rfl
    closings := fun other member => same.closings other (by rw [is]; exact .tail _ member) }

end SameState

namespace Abreast
variable {language : Language} {state state' : State} {spot spot' : Spot}
  (abreast : Abreast strict language state state' spot spot')
include abreast

theorem openBracket : Agree (SameNext strict spot.rest spot'.rest) (openBracket language state spot)
    (openBracket language state' spot') := by
  have plain : SameNext strict spot.rest spot'.rest
      ((state.emit "[").push .bracket "]" spot.token.line, 0)
      ((state'.emit "[").push .bracket "]" spot'.token.line, 0) := by
    rw [← abreast.token]
    exact .of_firm ((abreast.states.emit_plain (by decide) (by decide)).push (by decide) _)
      (.zero abreast.rest)
  unfold Lowering.openBracket
  refine .ite (fun _ => ?_) fun _ => plain
  rcases emptyMap?_alike abreast.rest with ⟨is, is'⟩ | ⟨taken, taken', is, is', parted⟩
  · simp only [is, is']
    rcases splitClosing?_alike abreast.rest 1 with ⟨none_, none_'⟩ | ⟨⟨inner, last, after⟩,
      ⟨inner', last', after'⟩, one, two, split⟩
    · simp only [none_, none_']
      exact abreast.fails _
    simp only [one, two]
    have inners : Alike inner inner' := split.inner
    rw [← holdsEntries_meaningful inner, ← holdsEntries_meaningful inner', inners.meaningful]
    refine .ite (fun _ => ?_) fun _ => plain
    rw [← abreast.token]
    exact SameNext.of_firm ((abreast.states.emit_plain (by decide) (by decide)).push (by decide) _)
      (.zero abreast.rest)
  · simp only [is, is']
    have opened : SameState strict Firm (state.emit "#\x7b\x7d") (state'.emit "#\x7b\x7d") :=
      abreast.states.emit_plain (by decide) (by decide)
    have skipped := opened.skip parted.taken firm_lineEnd
    exact SameNext.of_firm { skipped with lastClosed := rfl } parted

theorem openParen : Agree (SameNext strict spot.rest spot'.rest) (openParen language state spot)
    (openParen language state' spot') := by
  have plain : SameNext strict spot.rest spot'.rest
      ((state.emit "(").push .paren ")" spot.token.line, 0)
      ((state'.emit "(").push .paren ")" spot'.token.line, 0) := by
    rw [← abreast.token]
    exact .of_firm ((abreast.states.emit_plain (by decide) (by decide)).push (by decide) _)
      (.zero abreast.rest)
  unfold Lowering.openParen
  refine .ite (fun _ => plain) fun _ => ?_
  rcases splitClosing?_alike abreast.rest 1 with ⟨none_, none_'⟩ | ⟨⟨inner, last, after⟩,
    ⟨inner', last', after'⟩, one, two, split⟩
  · simp only [none_, none_']
    exact abreast.fails _
  simp only [one, two]
  rcases aheadSign?_alike split.after "=>" with ⟨is, is'⟩ | ⟨arrow, arrow', is, is', meets⟩
  · simp only [is, is']
    exact plain
  simp only [is, is']
  have same : parameters inner = parameters inner' := by
    rw [← parameters_meaningful, split.inner.meaningful, parameters_meaningful]
  rw [← same]
  refine Agree.bind_same fun names known => ?_
  have names_ := plain_names (abreast.proper.inner one).1.sound (parameters_clear known).2
  have parted := split.parted_add one two meets.parted.2
  have behind {tokens inner after : List Token} {last : Token} {arrow : Ahead}
      (is : splitClosing? 1 tokens = some (inner, last, after))
      (drops : after.drop (arrow.passed + 1) = arrow.rest) :
      tokens = tokens.take (inner.length + 1 + (arrow.passed + 1)) ++ arrow.rest := by
    have ends : tokens.drop (inner.length + 1) = after := by
      rw [(splitClosing?_eq is).1, ← List.singleton_append, ← List.append_assoc]
      exact List.drop_left' (by simp)
    rw [← drops, ← ends, List.drop_drop, List.take_append_drop]
  exact abreast.arrowBody names_ parted.taken meets.rest (behind one meets.drop_succ.1)
    (behind two meets.drop_succ.2)

/-- A closure is joined to the call in front of it in both outputs or in neither. -/
theorem closureOpened {names : String} (plain : isPlain names = true)
    (joined : spot.lastIsSign [")"] = true →
      state.output.joins = state.output.withoutAsides.joins) :
    SameState strict Firm (closureOpened state spot (s!"|{names}| " ++ "\x7b"))
      (closureOpened state' spot' (s!"|{names}| " ++ "\x7b")) := by
  obtain ⟨head, starts⟩ := plain_head plain
  have reopens : Both (fun output output' =>
        SameState strict Fresh { state with output } { state' with output := output' } ∧
          output.endsOpen = output'.endsOpen)
      (if spot.lastIsSign [")"] then state.output.reopen? else none)
      (if spot.lastIsSign [")"] then state'.output.reopen? else none) := by
    split
    · rename_i behind
      have same := joined behind
      rw [Output.joins_eq, Output.joins_eq, Output.pieces_withoutAsides] at same
      rw [reopen?_eq, reopen?_eq]
      rcases abreast.states.written.reopens same with ⟨is, is'⟩ | ⟨before, before', is, is', written⟩
      · rw [is, is']
        exact .inl ⟨rfl, rfl⟩
      · rw [is, is']
        exact .inr ⟨_, _, rfl, rfl, abreast.states.reopen is is' written.1, written.2⟩
    · exact .inl ⟨rfl, rfl⟩
  unfold Lowering.closureOpened
  rw [← abreast.lastIsSign, ← abreast.behindName, ← abreast.declaredName?, ← abreast.token]
  rcases reopens with ⟨is, is'⟩ | ⟨output, output', is, is', same, opens⟩
  · simp only [is, is']
    split
    · exact (abreast.states.emit_plain (isPlain_append (by decide) head)
        (startsApart_append (by decide) _)).push (by decide) _
    · exact ((abreast.states.addCallable _).emit_plain head starts).push (by decide) _
  · simp only [is, is', ← opens]
    refine (same.emit_plain (isPlain_append ?_ head) ?_).push (by decide) _
    · split <;> decide
    · split
      · simpa using starts
      · exact startsApart_append (by decide) _

theorem closure (joined : spot.lastIsSign [")"] = true →
    state.output.joins = state.output.withoutAsides.joins) :
    Agree (SameNext strict spot.rest spot'.rest) (closure state spot) (closure state' spot') := by
  unfold Lowering.closure
  rcases splitClosing?_alike abreast.rest 1 with ⟨none_, none_'⟩ | ⟨⟨inner, last, after⟩,
    ⟨inner', last', after'⟩, one, two, split⟩
  · simp only [none_, none_']
    exact abreast.fails _
  simp only [one, two]
  have inners : Alike inner inner' := split.inner
  obtain ⟨same, within⟩ := abreast.closureParameters inners
  have short : (closureParameters spot inner).2 ≤ inner.length := (closureParameters_clear rfl).2
  have short' : (closureParameters spot' inner').2 ≤ inner'.length :=
    (closureParameters_clear rfl).2
  have plain : isPlain (closureParameters spot inner).1 = true :=
    closureParameters_plain (abreast.proper.inner one).1.sound
  have parted : Parted spot.rest spot'.rest (closureParameters spot inner).2
      (closureParameters spot' inner').2 := by
    rw [(splitClosing?_eq one).1, (splitClosing?_eq two).1]
    have closing : Alike (last :: after) (last' :: after') := by
      obtain rfl : last = last' := split.last
      exact .cons (isGap_of_isClosing (splitClosing?_eq one).2) split.after
    exact within.append short short' closing
  rw [← same]
  exact SameNext.of_firm ((abreast.closureOpened plain joined).skip parted.taken firm_lineEnd) parted

theorem openBrace (joined : language = .groovy → opensBlock spot = false →
      spot.lastIsSign [")"] = true → state.output.joins = state.output.withoutAsides.joins) :
    Agree (SameNext strict spot.rest spot'.rest) (openBrace language state spot)
      (openBrace language state' spot') := by
  have opens {text close : String} {kind : FrameKind} (plain : isPlain text = true)
      (starts : startsApart text = true) (closes : close ∈ closings kind) :
      SameNext strict spot.rest spot'.rest ((state.emit text).push kind close spot.token.line, 0)
        ((state'.emit text).push kind close spot.token.line, 0) :=
    .of_firm ((abreast.states.emit_plain plain starts).push closes _) (.zero abreast.rest)
  unfold Lowering.openBrace
  rw [← abreast.opensBlock, ← abreast.lastIsSign, ← abreast.lastIsWord, ← abreast.token]
  refine .ite (fun groovy => ?_) fun _ => ?_
  · refine .ite (fun _ => opens (by decide) (by decide) (by decide)) fun other => ?_
    exact abreast.closure (joined (beq_iff_eq.mp groovy) (Bool.eq_false_iff.mpr other))
  · exact .ite (fun _ => opens (by decide) (by decide) (by decide))
      fun _ => opens (by decide) (by decide) (by decide)

theorem close {sign : String} (cleared : sign = ")" → SameState strict (Cleared strict) state state') :
    Agree (SameNext strict spot.rest spot'.rest) (close state spot sign)
      (close state' spot' sign) := by
  have closed := abreast.states.closeCommands (firm_of_startsApart (by decide)).1
  unfold Lowering.close
  simp only [← closed.frames]
  split
  · exact abreast.fails _
  · rename_i frame frames is
    refine .ite (fun fitting => ?_) fun _ => abreast.fails _
    obtain ⟨plain, marked⟩ := plain_closing frame.kind frame.close
      (closed.closings frame (by rw [is]; exact .head _))
    rcases marked with starts | ⟨nothing, paren⟩
    · exact .of_firm ((closed.pop is).emit_plain plain starts) (.zero abreast.rest)
    · -- Nothing is written for the parenthesis of a loop, and no slash stands in front of it.
      have round : sign = ")" := by
        rw [paren] at fitting
        unfold fits at fitting
        split at fitting
        · cases fitting
        · split at fitting
          · exact beq_iff_eq.mp ‹_›
          · cases fitting
      have firm : Firm ")" := firm_of_startsApart (by decide)
      have own := ((cleared round).closeCommands firm.cleared).pop is
      rw [nothing]
      exact .of_firm (own.emit_shared (.inl (by decide)) (fun _ cleared => cleared.precedes _)
        rfl ⟨rfl, by decide⟩) (.zero abreast.rest)

theorem stepSign (sign : String) : Agree (SameNext strict spot.rest spot'.rest)
    (stepSign state spot sign) (stepSign state' spot' sign) := by
  unfold Lowering.stepSign
  rw [← abreast.last?, ← abreast.lastIsSign]
  refine .ite (fun _ => ?_) fun _ => abreast.fails _
  have plain : isPlain (if sign == "++" then " += 1" else " -= 1") = true ∧
      startsApart (if sign == "++" then " += 1" else " -= 1") = true := by
    split <;> decide
  exact abreast.emit plain.1 plain.2

/-- A sign that is written as it is. -/
theorem emit_sign {text : String} (known : text ∈ signs) (other : text ≠ "/=" ∧ text ≠ ")")
    (cleared : text ∈ slashTails → SameState strict (Cleared strict) state state')
    (follows : strict → text = "/" → FollowsSlash spot.rest) :
    SameNext strict spot.rest spot'.rest (state.emit text, 0) (state'.emit text, 0) := by
  obtain ⟨plain, starts⟩ := plain_sign text known
  rcases starts with tail | starts
  · have shared : IsShared text ∧ Fresh text ∧ (text = "/" ∨ Firm text) := by
      simp only [slashTails, List.mem_cons, List.not_mem_nil, or_false] at tail
      rcases tail with rfl | rfl | rfl | rfl | rfl
      · exact ⟨.inl (by decide), rfl, .inl rfl⟩
      · exact absurd rfl other.1
      · exact ⟨.inl (by decide), rfl, .inr ⟨rfl, by decide⟩⟩
      · exact ⟨.inl (by decide), rfl, .inr ⟨rfl, by decide⟩⟩
      · exact absurd rfl other.2
    refine ⟨(cleared tail).emit_shared shared.1 (fun _ cleared => cleared.precedes _) shared.2.1 ?_,
      .zero abreast.rest⟩
    refine ⟨fun mark => absurd mark (Bool.eq_false_iff.mp shared.2.1), follows⟩
  · refine abreast.emit ?_ starts
    rcases plain with rfl | rfl | plain
    · exact absurd starts (by decide)
    · exact absurd rfl other.1
    · exact plain

theorem sign {text : String} (known : text ∈ signs)
    (cleared : text ∈ slashTails → SameState strict (Cleared strict) state state')
    (follows : strict → text = "/" → FollowsSlash spot.rest)
    (joined : language = .groovy → text = "\x7b" → opensBlock spot = false →
      spot.lastIsSign [")"] = true → state.output.joins = state.output.withoutAsides.joins) :
    Agree (SameNext strict spot.rest spot'.rest) (sign language state spot text)
      (sign language state' spot' text) := by
  unfold Lowering.sign
  split
  · exact abreast.emit (by decide) (by decide)
  · exact abreast.emit (by decide) (by decide)
  · exact abreast.openBrace fun groovy => joined groovy rfl
  · exact abreast.openParen
  · exact abreast.openBracket
  · exact abreast.close fun other => absurd other (by decide)
  · exact abreast.close fun _ => cleared (by decide)
  · exact abreast.close fun other => absurd other (by decide)
  · have firm : Firm ")" := firm_of_startsApart (by decide)
    exact SameNext.of_firm ((abreast.states.closeCommands firm.1).emit_plain (by decide) (by decide))
      (.zero abreast.rest)
  · exact abreast.stepSign _
  · exact abreast.stepSign _
  · exact abreast.fails _
  · exact abreast.fails _
  · exact abreast.fails _
  · refine .ite (fun _ => abreast.emit (by decide) (by decide)) fun _ => ?_
    refine .ite (fun _ => abreast.emit (by decide) (by decide)) fun _ => ?_
    refine .ite (fun _ => abreast.emit (by decide) (by decide)) fun _ => ?_
    rw [State.inCommand, State.inCommand, ← abreast.states.frames]
    refine .ite (fun _ => abreast.emit (by decide) (by decide)) fun _ => ?_
    exact abreast.emit_sign known ⟨by assumption, by assumption⟩ cleared follows

end Abreast

/-- A comment over several lines can stand in front of anything. -/
theorem firm_of_broken {text : String} (is : IsComment text.toList) (broken : '\n' ∈ text.toList) :
    Firm text := by
  generalize chars : text.toList = own at is broken
  cases is with
  | line inLine => simp [inLine] at broken
  | block =>
    refine ⟨by simp [Fresh, isLineMark, chars, List.isPrefixOf], ?_⟩
    rintro rfl
    simp at chars

theorem twins_literal {text : List Char} (literal : IsLiteral strict text) :
    Twins strict (String.ofList text) (String.ofList text) :=
  have starts := startsApart_literal literal.weaken
  have ends := endsApart_literal literal.weaken
  ⟨.refl (reads_literal literal), ⟨starts, starts⟩, ⟨ends, ends⟩, .inl rfl⟩

variable {language : Language} {state state' : State} {spot spot' : Spot}

/-- The next states are the same, too, if the token is no gap. -/
theorem step_alike (same : SameState strict (Ready strict (spot.token :: spot.rest)) state state')
    (spots : SameSpot spot spot') (solid : spot.token.kind.isGap = false)
    (proper : Proper strict language (spot.token :: spot.rest))
    (proper' : Proper strict language spot'.rest)
    (joined : interrupted language state spot = false) :
    Agree (SameNext strict spot.rest spot'.rest) (step language state spot)
      (step language state' spot') := by
  have sound := proper.sound spot.token List.mem_cons_self
  have ticks := fun strict_ => (proper.orderly strict_).ticks spot.token List.mem_cons_self
  have abreast (other : spot.token.kind ≠ .newline) :
      Abreast strict language state state' spot spot' :=
    { spots with
      states := same.mono fun _ ready => ready.fresh other
      proper := proper.tail
      proper' := proper' }
  have literal {text : List Char} (is : IsLiteral strict text) (other : spot.token.kind ≠ .newline) :
      SameNext strict spot.rest spot'.rest (state.emit (String.ofList text), 0)
        (state'.emit (String.ofList text), 0) :=
    .of_firm ((abreast other).states.emit (twins_literal is)) (.zero spots.rest)
  unfold step
  rw [← spots.token]
  cases kind : spot.token.kind with
  | newline =>
    exact SameNext.of_firm (lineEnd_alike same spots fun _ firm => firm.ready _) (.zero spots.rest)
  | space text =>
    rw [kind] at solid
    cases solid
  | comment text =>
    rw [kind] at solid sound
    have broken : '\n' ∈ text.toList := by simpa [Kind.isGap, Kind.isAside] using solid
    refine .of_firm (same.pad (.inr ⟨sound, broken⟩) (fun piece ready => ?_)
      (firm_of_broken sound broken)) (.zero spots.rest)
    refine ⟨fun mark => ?_, fun strict_ slash => ?_⟩
    · rw [ready.fresh (by simp [kind])] at mark
      cases mark
    · have noComment := (ready.slash strict_ slash).1 _ rfl
      rw [kind] at noComment
      cases noComment
  | number text =>
    rw [kind] at sound
    obtain ⟨plain, starts⟩ := plain_numberText sound language
    exact (abreast (by simp [kind])).emit plain starts
  | quoted body quote =>
    refine literal ?_ (by simp [kind])
    rw [kind] at ticks
    split
    · rename_i dollars
      simp only [Bool.and_eq_true, beq_iff_eq] at dollars
      exact isLiteral_withDollars fun strict_ => ticks strict_ dollars.1 dollars.2
    · exact isLiteral_quote body
  | template body =>
    rw [kind] at ticks
    exact literal (isLiteral_template ticks) (by simp [kind])
  | regex pattern flags => exact literal (isLiteral_regex pattern flags) (by simp [kind])
  | word text =>
    rw [kind] at sound
    exact (abreast (by simp [kind])).word sound
  | sign text =>
    rw [kind] at sound
    refine (abreast (by simp [kind])).sign sound (fun tail => same.mono fun _ ready =>
      ready.cleared kind tail) (fun strict_ slash => ?_) fun groovy brace blocks behind => ?_
    · exact (proper.orderly strict_).slashes.1 (by rw [kind, slash])
    · have is : spot.token.isSign "\x7b" = true := by
        rw [Token.isSign, kind, brace]
        exact beq_self_eq_true _
      simpa [interrupted, groovy, is, blocks, behind] using joined

end ApiProbe.Script.Lowering
