import ApiProbe.Proofs.Script.PlacedSigns

/-!
The whole run. What a step takes along stands among the tokens that follow, so every step goes on to
a later place that is not beyond the end, and there are no more steps than tokens. With that, a run by
place is a run of the lowering, which neither crashes nor hangs.
-/
namespace ApiProbe.Script.Lowering

/-- A step takes along nothing but tokens that follow. -/
def Within (spot : Spot) (result : Step) : Prop :=
  ∀ next taken, result = .ok (next, taken) → taken ≤ spot.rest.length

namespace Within
variable {spot : Spot}

theorem ok (state : State) {taken : Nat} (short : taken ≤ spot.rest.length) :
    Within spot (.ok (state, taken)) := by
  rintro next _ ⟨⟩
  exact short

/-- Nothing but the token itself is taken. -/
theorem alone (state : State) : Within spot (.ok (state, 0)) := ok state (Nat.zero_le _)

theorem error (error : SyntaxError) : Within spot (.error error) := nofun

theorem fail (fault : SyntaxFault) : Within spot (spot.fail fault) := nofun

theorem ite {p : Prop} [Decidable p] {first second : Step} (one : Within spot first)
    (two : Within spot second) : Within spot (if p then first else second) := by
  split
  · exact one
  · exact two

end Within

section Within
variable (language : Language) (state : State) (spot : Spot)

theorem arrowBody_within (names : String) {between after : List Token}
    (long : spot.rest.length = between.length + after.length) :
    Within spot (.ok (arrowBody state spot names between after)) := by
  unfold arrowBody
  simp only
  split
  · rename_i brace found
    have behind := aheadSign?_length found
    exact .ok _ (by omega)
  · exact .ok _ (by omega)

theorem function_within : Within spot (function state spot) := by
  intro next taken done
  simp only [function, bind, Except.bind] at done
  split at done
  · cases done
  rename_i start begins
  obtain ⟨name, opening⟩ := start
  obtain ⟨front, parts, long, -⟩ := functionStart_eq begins
  split at done
  · rename_i inner closing after encloses
    split at done
    · cases done
    split at done
    · rename_i brace found
      cases done
      have whole := congrArg List.length parts
      rw [List.length_append, List.length_cons, long, splitClosing?_length encloses,
        aheadSign?_length found] at whole
      simp only at whole ⊢
      omega
    · cases done
  · cases done

theorem countingLoop_within {opening : Ahead} {inner : List Token}
    (inside : opening.passed + 1 + inner.length + 1 ≤ spot.rest.length) :
    Within spot (countingLoop state spot opening inner) := by
  unfold countingLoop
  split
  · exact .ok _ inside
  · exact .fail _

theorem itemLoop_within {opening : Ahead} {inner : List Token} (name word : String)
    (inside : opening.passed + 1 + inner.length + 1 ≤ spot.rest.length) :
    Within spot (.ok (itemLoop language state spot opening inner name word)) := by
  obtain ⟨declared, whole, -⟩ := loopHead_eq inner
  obtain ⟨front, parts, -⟩ := dropMeaningful_eq 2 (loopHead inner)
  obtain ⟨blank, items, body, -, idle⟩ := blanks_ahead (dropMeaningful 2 (loopHead inner))
  have all := congrArg List.length whole
  have head := congrArg List.length parts
  have blanks := congrArg List.length body
  rw [List.length_append] at all head blanks
  refine .ok _ ?_
  omega

theorem forLoop_within : Within spot (forLoop language state spot) := by
  unfold forLoop
  split
  · exact .alone _
  rename_i opening found
  split
  · exact .error _
  rename_i inner closing after encloses
  have begins := aheadSign?_length found
  have ends := splitClosing?_length encloses
  have counting : Within spot (countingLoop state spot opening inner) :=
    countingLoop_within state spot (by omega)
  split
  · split
    · exact .ite (itemLoop_within language state spot _ _ (by omega)) counting
    · exact counting
  · exact counting

theorem command_within (word : String) : Within spot (command state spot word) := by
  unfold command
  simp only
  split
  · rename_i next found
    have ahead := ahead?_length (Option.filter_eq_some_iff.mp found).1
    exact .ite (.alone _) (.ok _ (by omega))
  · exact .alone _

theorem name_within (word : String) : Within spot (.ok (name language state spot word)) := by
  unfold name
  split
  · rename_i arrow found
    have ahead : aheadSign? spot.rest "=>" = some arrow := by
      split at found
      · exact found
      · cases found
    obtain ⟨front, parts, long, -⟩ := arrow_ahead ahead
    refine arrowBody_within state spot word ?_
    rw [← long, take_front parts, parts, List.length_append]
  · split <;> exact .alone _

theorem keyword_within (word : String) : Within spot (keyword language state spot word) := by
  unfold keyword
  refine .ite (.alone _) (.ite (.alone _) (.ite (.fail _) (.ite (.fail _)
    (.ite (function_within state spot) (.ite (forLoop_within language state spot) (.ite ?_ (.ite ?_
      (.ite (command_within state spot word) ?_))))))))
  · intro next taken done
    obtain ⟨passed, operand, more, parts, -, long, -⟩ := typeOf_eq done
    rw [parts, List.length_append, long]
    exact Nat.le_add_right ..
  · intro next taken done
    obtain ⟨front, more, parts, -, long, -⟩ := newError_eq done
    rw [parts, List.length_append, long]
    exact Nat.le_add_right ..
  · split
    · rename_i opening found
      have ahead : aheadSign? spot.rest "(" = some opening := by
        split at found
        · exact found
        · cases found
      have long := aheadSign?_length ahead
      exact .ok _ (by omega)
    · exact name_within language state spot word

theorem boundCall?_length {word call : String} {afterDot : Bool}
    (is : boundCall? word afterDot spot.rest = some call) : 3 ≤ spot.rest.length := by
  unfold boundCall? at is
  split at is
  · rename_i parts
    rw [parts]
    simp
  · cases is

theorem word_within (text : String) : Within spot (word language state spot text) := by
  unfold word
  simp only
  split
  · rename_i call found
    split at found
    · exact .ok _ (boundCall?_length spot found)
    · cases found
  · exact .ite (.alone _) (keyword_within language state spot text)

theorem openBracket_within : Within spot (openBracket language state spot) := by
  unfold openBracket
  refine .ite ?_ (.alone _)
  split
  · rename_i taken empty
    obtain ⟨front, last, more, parts, rfl, -⟩ := emptyMap?_eq empty
    refine .ok _ ?_
    rw [parts, List.length_append, List.length_cons]
    omega
  · split
    · exact .fail _
    · exact .ite (.alone _) (.alone _)

theorem openParen_within : Within spot (openParen language state spot) := by
  unfold openParen
  refine .ite (.alone _) ?_
  split
  · exact .fail _
  rename_i inner closing after encloses
  split
  · exact .alone _
  rename_i arrow found
  have ends := splitClosing?_length encloses
  have ahead := aheadSign?_length found
  cases parameters inner with
  | error error => exact .error error
  | ok names =>
    refine arrowBody_within state spot _ ?_
    rw [List.length_take]
    omega

theorem closure_within : Within spot (closure state spot) := by
  unfold closure
  split
  · exact .fail _
  rename_i inner closing after encloses
  have ends := splitClosing?_length encloses
  have parameters : (closureParameters spot inner).2 ≤ inner.length :=
    (closureParameters_clear rfl).2
  exact .ok _ (parameters.trans (by omega))

theorem close_within (text : String) : Within spot (close state spot text) := by
  unfold close
  simp only
  split
  · exact .fail _
  · exact .ite (.alone _) (.fail _)

theorem sign_within (text : String) : Within spot (sign language state spot text) := by
  unfold sign
  split
  · exact .alone _
  · exact .alone _
  · exact .ite (.ite (.alone _) (closure_within state spot)) (.ite (.alone _) (.alone _))
  · exact openParen_within language state spot
  · exact openBracket_within language state spot
  · exact close_within state spot _
  · exact close_within state spot _
  · exact close_within state spot _
  · exact .alone _
  · exact .ite (.alone _) (.fail _)
  · exact .ite (.alone _) (.fail _)
  · exact .fail _
  · exact .fail _
  · exact .fail _
  · exact .ite (.alone _) (.ite (.alone _) (.ite (.alone _) (.ite (.alone _) (.alone _))))

/-- A step takes along nothing but tokens that follow. -/
theorem step_within : Within spot (step language state spot) := by
  unfold step
  cases spot.token.kind with
  | word text => exact word_within language state spot text
  | sign text => exact sign_within language state spot text
  | _ => exact .alone _

end Within
end ApiProbe.Script.Lowering

namespace ApiProbe.Script.Placed
open Lowering

variable {tokens : List Token} {i taken : Nat} {spot : Spot}

/-- Every place among the tokens is one that the lowering sees. -/
theorem stands_at (inside : i < tokens.length) :
    Stands tokens i ⟨(tokens.take i).reverse, tokens[i], tokens.drop (i + 1)⟩ where
  whole := by
    rw [List.reverse_reverse, ← List.drop_eq_getElem_cons inside, List.take_append_drop]
  place := by
    rw [List.length_reverse, List.length_take, Nat.min_eq_left inside.le]

/-- What is before the next place and what follows it, when tokens have been taken along. -/
theorem Stands.beyond (stands : Stands tokens i spot) (short : taken ≤ spot.rest.length) :
    ((spot.rest.take taken).reverse ++ spot.token :: spot.before).reverse ++ spot.rest.drop taken
      = tokens ∧
      ((spot.rest.take taken).reverse ++ spot.token :: spot.before).length = i + 1 + taken := by
  constructor
  · rw [List.reverse_append, List.reverse_reverse, List.append_assoc, List.take_append_drop,
      List.reverse_cons, List.append_assoc, stands.whole]
    rfl
  · rw [List.length_append, List.length_reverse, List.length_take, List.length_cons, stands.place]
    omega

/-- A step either finds a fault or goes on to a later place, with a draft that is sound again. -/
theorem step_advances (language : Language) {draft : Draft} (sound : draft.Sound)
    (inside : i < tokens.length) :
    (∃ error, step language tokens draft i = .error (.fault error)) ∨
      ∃ next place, step language tokens draft i = .ok (next, place) ∧ next.Sound ∧
        i < place ∧ place ≤ tokens.length := by
  obtain ⟨state, rfl⟩ := Draft.exists_of sound
  have stands := stands_at inside
  rw [step_eq stands]
  cases done : Lowering.step language state ⟨(tokens.take i).reverse, tokens[i], tokens.drop (i + 1)⟩ with
  | error error => exact .inl ⟨error, rfl⟩
  | ok result =>
    obtain ⟨next, taken⟩ := result
    have short := step_within language state _ next taken done
    have long := stands.length
    exact .inr ⟨.of next, i + 1 + taken, rfl, Draft.of_sound next, by omega, by omega⟩

/-- From a place on, a run in as many steps as tokens follow is a run of the lowering. -/
theorem run_eq (language : Language) (state : State) (before rest : List Token) {steps : Nat}
    (enough : rest.length ≤ steps) :
    run language (before.reverse ++ rest) steps (.of state) before.length
      = settled ((Lowering.steps language state before rest).map .of) := by
  have inside (before : List Token) (token : Token) (rest : List Token) :
      before.length < (before.reverse ++ token :: rest).length := by simp
  fun_induction Lowering.steps language state before rest generalizing steps with
  | case1 state before =>
    rw [run.eq_def, if_neg (by simp)]
    rfl
  | case2 state before token rest error failed =>
    have stands : Stands (before.reverse ++ token :: rest) before.length ⟨before, token, rest⟩ :=
      ⟨rfl, rfl⟩
    obtain ⟨steps, rfl⟩ := Nat.exists_eq_add_of_le' (Nat.le_of_add_left_le enough)
    rw [run, if_pos (inside before token rest), step_eq stands, failed]
    rfl
  | case3 state before token rest next taken done ih =>
    have stands : Stands (before.reverse ++ token :: rest) before.length ⟨before, token, rest⟩ :=
      ⟨rfl, rfl⟩
    have short := step_within language state _ next taken done
    obtain ⟨whole, long⟩ := stands.beyond short
    obtain ⟨steps, rfl⟩ := Nat.exists_eq_add_of_le' (Nat.le_of_add_left_le enough)
    rw [List.length_cons] at enough
    have fewer : (rest.drop taken).length ≤ steps := by
      rw [List.length_drop]
      omega
    have further := ih fewer
    rw [whole, long] at further
    rw [run, if_pos (inside before token rest), step_eq stands, done]
    exact further

/-- By place, too, the lowering comes to its text, or to its fault. -/
theorem lower_eq (language : Language) (script : String) :
    lower language script = settled (Lowering.lower language script) := by
  rw [lower, tokens_eq, Lowering.lower]
  cases Script.tokens script with
  | error error => rfl
  | ok tokens =>
    have ran : run language tokens tokens.length .start 0
        = settled ((Lowering.steps language .start [] tokens).map .of) :=
      run_eq language .start [] tokens (Nat.le_refl tokens.length)
    simp only [settled, Except.mapError, bind, Except.bind] at ran ⊢
    rw [ran]
    cases Lowering.steps language .start [] tokens with
    | error error => rfl
    | ok state =>
      simp only [Except.map, Draft.of_closeCommands, Draft.of_frames]
      cases state.closeCommands.frames <;> rfl

/-- Every script comes to a text or to a fault, as in the lowering. No step crashes: what it cuts has
its ends in order and in bounds, and the mark at which it puts a piece is not beyond the end. Each goes
on to a later place, and there are no more of them than tokens. -/
theorem script_never_crashes (language : Language) (script : String) :
    ((∃ text, lower language script = .ok text ∧ Lowering.lower language script = .ok text) ∨
      ∃ error, lower language script = .error (.fault error) ∧
        Lowering.lower language script = .error error) ∧
    Draft.start.Sound ∧
    ∀ (tokens : List Token) (draft : Draft) (i : Nat), draft.Sound → i < tokens.length →
      (∃ error, step language tokens draft i = .error (.fault error)) ∨
        ∃ next place, step language tokens draft i = .ok (next, place) ∧ next.Sound ∧
          i < place ∧ place ≤ tokens.length := by
  refine ⟨?_, Nat.le_refl 0, fun tokens draft i => step_advances language⟩
  rw [lower_eq]
  cases Lowering.lower language script with
  | error error => exact .inr ⟨error, rfl, rfl⟩
  | ok text => exact .inl ⟨text, rfl, rfl⟩

/-- Not even a closure behind a call, for which a parenthesis is taken back. -/
theorem trailing_closure_never_crashes :
    let tokens : List Token := [⟨.word "each", 1⟩, ⟨.sign "(", 1⟩, ⟨.sign ")", 1⟩, ⟨.space " ", 1⟩,
      ⟨.sign "\x7b", 1⟩, ⟨.word "it", 1⟩, ⟨.sign "\x7d", 1⟩]
    let draft : Draft := ⟨["each", "(", ")", " "], 3, [], [], some .paren⟩
    draft.Sound ∧ 4 < tokens.length ∧
      ((∃ error, step .groovy tokens draft 4 = .error (.fault error)) ∨
        ∃ next place, step .groovy tokens draft 4 = .ok (next, place) ∧ next.Sound ∧
          4 < place ∧ place ≤ tokens.length) := by
  have sound : (⟨["each", "(", ")", " "], 3, [], [], some .paren⟩ : Draft).Sound := by
    simp [Draft.Sound]
  exact ⟨sound, by decide, (script_never_crashes .groovy "each() { it }").2.2 _ _ 4 sound (by decide)⟩

end ApiProbe.Script.Placed
