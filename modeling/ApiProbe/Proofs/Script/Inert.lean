import ApiProbe.Proofs.Script.AlikeBrackets
import ApiProbe.Proofs.Script.Stripping

/-!
Comments are inert: a script with spaces in place of the comments on its lines is lowered to a text that
reads alike, or fails with the same error. The one exception is a closure that such a comment keeps
from the call in front of it.
-/
namespace ApiProbe.Script.Lowering
variable {strict : Prop} {language : Language}

section Gaps
variable {passed rest : List Token} {token : Token} {output : Output} {state state' : State}

theorem isInline_of_sound {text : String} (sound : (Kind.space text).Sound) :
    Output.isInline text = true := by
  have each : ∀ c ∈ text.toList, Text.isBlank c = true ∧ c ≠ '\n' := by
    simpa [isInlineBlank] using sound.2
  simp only [Output.isInline, Text.isBlankText, Bool.and_eq_true, List.all_eq_true,
    Bool.not_eq_true', List.contains_eq_mem, decide_eq_false_iff_not]
  exact ⟨fun c member => (each c member).1, fun member => (each '\n' member).2 rfl⟩

theorem startsApart_space {text : String} (sound : (Kind.space text).Sound) :
    startsApart text = true := by
  obtain ⟨c, rest, same⟩ := List.exists_cons_of_ne_nil sound.1
  have apart := inlineBlank_apart (sound.2 c (by rw [same]; exact List.mem_cons_self))
  simp [startsApart, same, apart.1, apart.2.1]

/-- What is written for a gap. -/
theorem gap_written (gap : token.kind.isGap = true) (sound : token.kind.Sound) :
    Output.isInline (plainText token.kind) = true ∨ IsAside (plainText token.kind) := by
  cases kind : token.kind with
  | space text =>
    rw [kind] at sound
    exact .inl (isInline_of_sound sound)
  | comment text =>
    rw [kind] at gap sound
    exact .inr ⟨sound, by simpa [plainText, Kind.isGap, Kind.isAside] using gap⟩
  | _ => simp [kind, Kind.isGap, Kind.isAside] at gap

theorem newline_of_gap (gap : token.kind.isGap = true) : token.kind ≠ .newline := by
  intro same
  rw [same] at gap
  cases gap

/-- A token of a gap can be written, and leaves the output ready for the next one. -/
theorem Sturdy.gap (sturdy : Sturdy strict (Ready strict (token :: rest)) output)
    (gap : token.kind.isGap = true) (sound : token.kind.Sound) (ended : Ended (token :: rest)) :
    Sturdy strict (Ready strict rest) (output.pad (plainText token.kind)) := by
  refine sturdy.pad (fun piece ready => ?_) ?_
  · refine ⟨fun mark => absurd mark (Bool.eq_false_iff.mp (ready.fresh (newline_of_gap gap))),
      fun strict_ slash => ?_⟩
    have noComment := (ready.slash strict_ slash).1 token rfl
    cases kind : token.kind with
    | space text =>
      rw [kind] at sound
      exact startsApart_space sound
    | comment text =>
      rw [kind] at noComment
      cases noComment
    | _ => simp [kind, Kind.isGap, Kind.isAside] at gap
  · cases kind : token.kind with
    | space text =>
      rw [kind] at sound
      exact (firm_of_startsApart (startsApart_space sound)).ready rest
    | comment text =>
      rw [kind] at sound
      refine ⟨fun mark next first => ended.1 text kind mark next first, fun _ slash => ?_⟩
      have chars : IsComment "/".toList := slash ▸ sound
      cases chars
    | _ => simp [kind, Kind.isGap, Kind.isAside] at gap

/-- The pieces of a gap, written one behind the other. -/
def Output.pads (output : Output) (tokens : List Token) : Output :=
  ⟨output.done, (tokens.map fun token => plainText token.kind).reverse ++ output.loose⟩

theorem Output.pads_cons (output : Output) (token : Token) (rest : List Token) :
    output.pads (token :: rest) = (output.pad (plainText token.kind)).pads rest := by
  simp [pads, pad]

theorem Sturdy.gaps (sturdy : Sturdy strict (Ready strict (passed ++ rest)) output)
    (gaps : ∀ token ∈ passed, token.kind.isGap = true)
    (sound : ∀ token ∈ passed, token.kind.Sound) (ended : Ended (passed ++ rest)) :
    Sturdy strict (Ready strict rest) (output.pads passed) := by
  induction passed generalizing output with
  | nil => exact sturdy
  | cons token passed ih =>
    obtain ⟨gap, gaps⟩ := List.forall_mem_cons.mp gaps
    obtain ⟨own, sound⟩ := List.forall_mem_cons.mp sound
    rw [Output.pads_cons]
    exact ih (sturdy.gap gap own ended) gaps sound ended.2

theorem Written.gaps {pieces first second : List String}
    (gaps : ∀ piece ∈ pieces, Output.isInline piece = true ∨ IsAside piece)
    (written : Written strict first second) : Written strict (pieces ++ first) second := by
  induction pieces with
  | nil => exact written
  | cons piece rest ih =>
    obtain ⟨gap, gaps⟩ := List.forall_mem_cons.mp gaps
    exact .gap gap (ih gaps)

/-- A gap on one side, and a space on the other. -/
theorem SameState.gap (same : SameState strict (Ready strict (passed ++ rest)) state state')
    (some_ : passed ≠ []) (gaps : ∀ token ∈ passed, token.kind.isGap = true)
    (sound : ∀ token ∈ passed, token.kind.Sound) (ended : Ended (passed ++ rest)) {text : String}
    (space : (Kind.space text).Sound) :
    SameState strict (Ready strict rest) { state with output := state.output.pads passed }
      (state'.pad text) := by
  have starts := startsApart_space space
  refine { same with
    loose := .gaps (fun piece member => ?_) (.blank (isInline_of_sound space) same.loose)
    sturdy := same.sturdy.gaps gaps sound ended
    sturdy' := same.sturdy'.pad (fun piece ready => ?_) ((firm_of_startsApart starts).ready rest) }
  · obtain ⟨token, inside, rfl⟩ := List.mem_map.mp (List.mem_reverse.mp member)
    exact gap_written (gaps token inside) (sound token inside)
  · obtain ⟨token, more, rfl⟩ := List.exists_cons_of_ne_nil some_
    exact (ready.fresh (newline_of_gap (gaps token List.mem_cons_self))).precedes starts

end Gaps

section Slashes
variable {first second : List Token}

theorem followsSlash_alike (alike : Alike first second) (follows : FollowsSlash first) :
    FollowsSlash second := by
  refine ⟨?_, by rw [← alike.meaningful]; exact follows.2⟩
  cases alike with
  | nil => exact fun _ first => by cases first
  | cons solid alike => exact follows.1
  | gap some_ gaps text line alike =>
    rintro _ ⟨⟩
    rfl

theorem slashesApart_alike (alike : Alike first second) (apart : SlashesApart first) :
    SlashesApart second := by
  induction alike with
  | nil => exact trivial
  | cons solid alike ih =>
    exact ⟨fun slash => followsSlash_alike alike (apart.1 slash), ih apart.2⟩
  | gap some_ gaps text line alike ih =>
    refine ⟨fun slash => ?_, ih (slashesApart_append apart).2⟩
    cases slash

theorem orderly_alike (alike : Alike first second) (orderly : Orderly language first) :
    Orderly language second := by
  refine ⟨slashesApart_alike alike orderly.slashes, ?_⟩
  have ticks := orderly.ticks
  clear orderly
  induction alike with
  | nil => exact ticks
  | cons solid alike ih =>
    obtain ⟨own, others⟩ := List.forall_mem_cons.mp ticks
    exact List.forall_mem_cons.mpr ⟨own, ih others⟩
  | gap some_ gaps text line alike ih =>
    exact List.forall_mem_cons.mpr ⟨trivial, ih (List.forall_mem_append.mp ticks).2⟩

end Slashes

section Runs

/-- The tokens that steps begin with, each with the state it is met in. -/
def visits (language : Language) (state : State) (before tokens : List Token) :
    List (State × Spot) :=
  match tokens with
  | [] => []
  | token :: rest =>
    (state, ⟨before, token, rest⟩) ::
      match step language state ⟨before, token, rest⟩ with
      | .error _ => []
      | .ok (next, taken) =>
        visits language next ((rest.take taken).reverse ++ token :: before) (rest.drop taken)
termination_by tokens.length
decreasing_by
  simp only [List.length_drop, List.length_cons]
  omega

/-- No closure is kept from the call in front of it. -/
def Joined (language : Language) (state : State) (before tokens : List Token) : Prop :=
  ∀ visit ∈ visits language state before tokens, interrupted language visit.1 visit.2 = false

variable {state state' : State} {before before' tokens tokens' rest : List Token} {token : Token}

theorem steps_of_ok {next : State} {taken : Nat}
    (stepped : step language state ⟨before, token, rest⟩ = .ok (next, taken)) :
    steps language state before (token :: rest)
        = steps language next ((rest.take taken).reverse ++ token :: before) (rest.drop taken) ∧
      visits language state before (token :: rest) = (state, ⟨before, token, rest⟩) ::
        visits language next ((rest.take taken).reverse ++ token :: before) (rest.drop taken) := by
  rw [steps, visits, stepped]
  exact ⟨rfl, rfl⟩

theorem Joined.next {next : State} {taken : Nat}
    (joined : Joined language state before (token :: rest))
    (stepped : step language state ⟨before, token, rest⟩ = .ok (next, taken)) :
    Joined language next ((rest.take taken).reverse ++ token :: before) (rest.drop taken) := by
  intro visit member
  refine joined visit ?_
  rw [(steps_of_ok stepped).2]
  exact List.mem_cons_of_mem _ member

/-- The tokens of a gap are written one by one. -/
theorem steps_gaps {passed : List Token} (gaps : ∀ token ∈ passed, token.kind.isGap = true)
    (joined : Joined language state before (passed ++ rest)) :
    steps language state before (passed ++ rest) = steps language
        { state with output := state.output.pads passed } (passed.reverse ++ before) rest ∧
      Joined language { state with output := state.output.pads passed } (passed.reverse ++ before)
        rest := by
  induction passed generalizing state before with
  | nil => exact ⟨rfl, joined⟩
  | cons token passed ih =>
    obtain ⟨gap, gaps⟩ := List.forall_mem_cons.mp gaps
    have stepped : step language state ⟨before, token, passed ++ rest⟩
        = .ok (state.pad (plainText token.kind), 0) := by
      cases kind : token.kind with
      | space text | comment text => simp only [step, kind, plainText]
      | _ => simp [kind, Kind.isGap, Kind.isAside] at gap
    have further := ih gaps (joined.next stepped)
    rw [List.cons_append, (steps_of_ok stepped).1, Output.pads_cons, List.reverse_cons,
      List.append_assoc]
    exact further

/-- Steps over tokens that are alike lead to the same. -/
theorem steps_alike (alike : Alike tokens tokens') (befores : Alike before before')
    (same : SameState strict (Ready strict tokens) state state')
    (proper : Proper strict language tokens) (proper' : Proper strict language tokens')
    (ended : Ended tokens)
    (joined : Joined language state before tokens) :
    Agree (SameState strict (Ready strict [])) (steps language state before tokens)
      (steps language state' before' tokens') := by
  induction long : tokens.length using Nat.strong_induction_on
    generalizing tokens tokens' before before' state state' with
  | _ n ih =>
    subst long
    cases alike with
    | nil =>
      rw [steps, steps]
      exact same
    | @cons token rest rest' solid alike =>
      have spots : SameSpot ⟨before, token, rest⟩ ⟨before', token, rest'⟩ := ⟨befores, rfl, alike⟩
      have own : interrupted language state ⟨before, token, rest⟩ = false :=
        joined (state, ⟨before, token, rest⟩) (by rw [visits]; exact List.mem_cons_self)
      have agree := step_alike same spots solid proper proper'.tail own
      cases stepped : step language state ⟨before, token, rest⟩ with
      | error error =>
        cases stepped' : step language state' ⟨before', token, rest'⟩ with
        | error error' =>
          rw [stepped, stepped'] at agree
          rw [steps, steps, stepped, stepped']
          exact agree
        | ok next' =>
          rw [stepped, stepped'] at agree
          exact agree.elim
      | ok next =>
        cases stepped' : step language state' ⟨before', token, rest'⟩ with
        | error error' =>
          rw [stepped, stepped'] at agree
          exact agree.elim
        | ok next' =>
          rw [stepped, stepped'] at agree
          rw [(steps_of_ok stepped).1, (steps_of_ok stepped').1]
          refine ih _ ?_ agree.parted.left (agree.parted.taken.reverse.append (.cons solid befores))
            agree.state (proper.tail.drop _) (proper'.tail.drop _) (ended.2.drop _)
            (joined.next stepped) rfl
          simp only [List.length_drop, List.length_cons]
          omega
    | @gap passed rest rest' some_ gaps text line alike =>
      obtain ⟨run, joined⟩ := steps_gaps gaps joined
      have spaced : step language state' ⟨before', ⟨.space text, line⟩, rest'⟩
          = .ok (state'.pad text, 0) := rfl
      rw [run, (steps_of_ok spaced).1]
      have space := proper'.sound _ List.mem_cons_self
      refine ih _ ?_ alike ((alike_gap some_ gaps text line).reverse.append befores)
        (same.gap some_ gaps proper.left.sound ended space) proper.right proper'.tail
        ended.right joined rfl
      have short := List.length_pos_of_ne_nil some_
      simp only [List.length_append]
      omega

end Runs

section Scripts

/-- The tokens of a script are in order, if it has any. -/
def ScriptOrderly (language : Language) (script : String) : Prop :=
  match tokens script with
  | .ok found => Orderly language found
  | .error _ => True

instance (language : Language) (script : String) : Decidable (ScriptOrderly language script) :=
  match read : tokens script with
  | .ok found => decidable_of_iff (Orderly language found) (by rw [ScriptOrderly, read])
  | .error _ => isTrue (by rw [ScriptOrderly, read]; trivial)

/-- The tokens of a script that steps of its lowering begin with, each with the state it is met in. -/
def scriptVisits (language : Language) (script : String) : List (State × Spot) :=
  match tokens script with
  | .ok found => visits language .start [] found
  | .error _ => []

theorem start_same : SameState strict (fun _ => False) State.start State.start where
  done := .nil
  loose := .nil
  sturdy := ⟨.nil, fun _ first => (by cases first), fun _ first => (by cases first)⟩
  sturdy' := ⟨.nil, fun _ first => (by cases first), fun _ first => (by cases first)⟩
  frames := rfl
  callables := rfl
  lastClosed := rfl
  closings := fun _ member => (by cases member)

theorem SameState.reads {top : String → Prop} {state state' : State}
    (same : SameState strict top state state') :
    SameReading strict state.output.text state'.output.text := by
  obtain ⟨one, two, stands, stands', kept⟩ :=
    same.written.stands same.sturdy.chained same.sturdy'.chained
  exact ⟨one, two, stands.legible, stands'.legible, stands.spells, stands'.spells, kept⟩

/-- Comments on one line are inert: with spaces in place of them a script fails with the same error, or
is lowered to a text that reads alike, and that is the same without comments and blanks if the tokens
are in order. No closure may be kept from the call in front of it. -/
theorem lower_uncommented (language : Language) (script : String)
    (joined : ∀ visit ∈ scriptVisits language script,
      interrupted language visit.1 visit.2 = false) :
    Agree (fun text text' => SameReading (ScriptOrderly language script) text text' ∧
        (ScriptOrderly language script → stripped text = stripped text'))
      (lower language script) (lower language (uncommented script)) := by
  unfold lower
  refine (tokens_uncommented script).bind fun found found' read read' alike => ?_
  obtain ⟨sound, ended⟩ := tokens_sound read
  obtain ⟨sound', -⟩ := tokens_sound read'
  have orderly (clear : ScriptOrderly language script) : Orderly language found := by
    rwa [ScriptOrderly, read] at clear
  rw [scriptVisits, read] at joined
  have proper : Proper (ScriptOrderly language script) language found := ⟨sound, orderly⟩
  have proper' : Proper (ScriptOrderly language script) language found' :=
    ⟨sound', fun clear => orderly_alike alike (orderly clear)⟩
  have run := steps_alike alike .nil (start_same.mono fun _ none_ => none_.elim) proper proper' ended
    joined
  refine run.bind fun last last' _ _ same => ?_
  have closed := same.closeCommands ((firm_of_startsApart (by decide)).ready [])
  simp only [← closed.frames]
  split
  · exact ⟨closed.reads, closed.reads.stripped_eq⟩
  · rfl

/-- A comment in a closure behind a call. -/
theorem lower_uncommented_closure :
    lower .groovy "run(a) \x7b x /* c */ \x7d" = .ok "run(a, || \x7b x /* c */ \x7d)" ∧
      lower .groovy (uncommented "run(a) \x7b x /* c */ \x7d") = .ok "run(a, || \x7b x   \x7d)" ∧
      stripped "run(a, || \x7b x /* c */ \x7d)" = stripped "run(a, || \x7b x   \x7d)" := by
  have joined : ∀ visit ∈ scriptVisits .groovy "run(a) \x7b x /* c */ \x7d",
      interrupted .groovy visit.1 visit.2 = false := by decide +kernel
  have orderly : ScriptOrderly .groovy "run(a) \x7b x /* c */ \x7d" := by decide +kernel
  have done : lower .groovy "run(a) \x7b x /* c */ \x7d"
      = .ok "run(a, || \x7b x /* c */ \x7d)" := by decide +kernel
  have done' : lower .groovy (uncommented "run(a) \x7b x /* c */ \x7d")
      = .ok "run(a, || \x7b x   \x7d)" := by decide +kernel
  have agree := lower_uncommented .groovy "run(a) \x7b x /* c */ \x7d" joined
  rw [done, done'] at agree
  exact ⟨done, done', agree.2 orderly⟩

-- In front of the closure the comment keeps it from the call.
example : lower .groovy "run(a) /* c */ \x7b x \x7d" = .ok "run(a) /* c */ || \x7b x \x7d" ∧
    lower .groovy (uncommented "run(a) /* c */ \x7b x \x7d") = .ok "run(a, || \x7b x \x7d)" := by
  decide +kernel

end Scripts

end ApiProbe.Script.Lowering
