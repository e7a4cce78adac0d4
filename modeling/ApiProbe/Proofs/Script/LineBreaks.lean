import ApiProbe.Proofs.Script.BracketBreaks

/-!
Where the lowering keeps line ends and where it does not. Three constructs change their number: a
string of Groovy that becomes a template turns its escapes into line ends, a counting loop writes the
templates in its bounds once more, and a command leaves out the comments in front of its argument.
All others carry over the line ends of the tokens they take.
-/
namespace ApiProbe.Script.Lowering

variable {language : Language} {state next : State} {spot : Spot} {taken : Nat}

/-- Line ends of the comments between a command and its argument. -/
def commandGap (rest : List Token) : Nat :=
  match aheadOnLine? rest with
  | some argument =>
    if argument.token.isSign "(" then 0 else breaksIn (rest.take argument.passed)
  | none => 0

/-- Line ends that a step writes besides those of the tokens it takes. -/
def gained (language : Language) (spot : Spot) : Nat :=
  match spot.token.kind with
  | .quoted body quote =>
    if language == .groovy && quote == '"' && Literal.interpolates body then
      Literal.lineEscapes body
    else 0
  | .word text =>
    if text == "for" && !spot.afterDot then templateBreaks (countingBounds spot.rest) else 0
  | _ => 0

/-- Line ends of the tokens it takes that a step does not write. -/
def lost (language : Language) (spot : Spot) : Nat :=
  match spot.token.kind with
  | .word text =>
    if commandWords.contains text && language == .groovy && !spot.afterDot then
      commandGap spot.rest
    else 0
  | _ => 0

/-- The account of one step. -/
def Accounts (language : Language) (state : State) (spot : Spot) (result : State × Nat) : Prop :=
  ∃ n, Writes state result.1 n ∧ n + lost language spot
    = spot.token.kind.breaks + breaksIn (spot.rest.take result.2) + gained language spot

theorem command_writes {word : String} (flat : Flat word)
    (done : command state spot word = .ok (next, taken)) :
    Writes state next 0 ∧ commandGap spot.rest = breaksIn (spot.rest.take taken) := by
  have begun := (Writes.refl state).emit flat
  cases found : aheadOnLine? spot.rest with
  | some argument =>
    simp only [command, commandGap, found] at done ⊢
    split at done
    · rename_i parenthesis
      cases done
      exact ⟨begun, if_pos parenthesis⟩
    · rename_i bare
      cases done
      exact ⟨(begun.emit (by decide)).push _ _ (by decide), if_neg bare⟩
  | none =>
    simp only [command, commandGap, found] at done ⊢
    cases done
    refine ⟨?_, rfl⟩
    split
    · exact begun.emit (by decide)
    · exact begun

/-- Words that neither gain nor lose line ends. -/
def Ordinary (language : Language) (word : String) : Prop :=
  word ≠ "for" ∧ (commandWords.contains word && language == .groovy) = false

private theorem ordinary_of_mem (words : List String) {word : String} (member : word ∈ words)
    (apart : ∀ other ∈ words, other ≠ "for" ∧ commandWords.contains other = false) :
    Ordinary language word := by
  obtain ⟨one, two⟩ := apart word member
  exact ⟨one, by rw [two, Bool.false_and]⟩

theorem accounts_word_iff {word : String} (kind : spot.token.kind = .word word) :
    Accounts language state spot (next, taken) ↔
      ∃ n, Writes state next n ∧
        n + (if commandWords.contains word && language == .groovy && !spot.afterDot then
          commandGap spot.rest else 0)
        = breaksIn (spot.rest.take taken)
          + if word == "for" && !spot.afterDot then templateBreaks (countingBounds spot.rest)
            else 0 := by
  unfold Accounts gained lost
  simp only [kind, Kind.breaks, Nat.zero_add]

theorem Carries.accounts {word : String} (carries : Carries state spot (next, taken))
    (kind : spot.token.kind = .word word)
    (ordinary : spot.afterDot = true ∨ Ordinary language word) :
    Accounts language state spot (next, taken) := by
  refine (accounts_word_iff kind).mpr ⟨_, carries, ?_⟩
  rcases ordinary with behind | ⟨noLoop, noCommand⟩
  · rw [behind, Bool.not_true, Bool.and_false, Bool.and_false]
    rfl
  · rw [noCommand, beq_eq_false_iff_ne.mpr noLoop, Bool.false_and]
    rfl

theorem keyword_accounts {word : String} (kind : spot.token.kind = .word word)
    (outside : spot.afterDot = false) (flat : Flat word) (neat : Neat spot.rest)
    (done : keyword language state spot word = .ok (next, taken)) :
    Accounts language state spot (next, taken) := by
  have written {text : String} (line : Flat text) : Carries state spot (state.emit text, 0) :=
    (Writes.refl state).emit line
  unfold keyword at done
  rcases ite_eq_iff.mp done with ⟨declares, done⟩ | ⟨-, done⟩
  · cases done
    exact (written (by decide)).accounts kind
      (.inr (ordinary_of_mem _ (List.contains_iff_mem.mp declares) (by decide)))
  rcases ite_eq_iff.mp done with ⟨unit, done⟩ | ⟨-, done⟩
  · cases done
    exact (written (by decide)).accounts kind
      (.inr (ordinary_of_mem ["null", "undefined"] (by simpa using unit) (by decide)))
  rcases ite_eq_iff.mp done with ⟨-, done⟩ | ⟨-, done⟩
  · cases done
  rcases ite_eq_iff.mp done with ⟨-, done⟩ | ⟨-, done⟩
  · cases done
  rcases ite_eq_iff.mp done with ⟨starts, done⟩ | ⟨-, done⟩
  · simp only [Bool.and_eq_true, beq_iff_eq] at starts
    exact (function_carries neat done).accounts kind
      (.inr (ordinary_of_mem ["function"] (by simp [starts]) (by decide)))
  rcases ite_eq_iff.mp done with ⟨loop, done⟩ | ⟨noLoop, done⟩
  · refine (accounts_word_iff kind).mpr ⟨_, forLoop_writes neat done, ?_⟩
    rw [beq_iff_eq.mp loop, outside]
    rfl
  rcases ite_eq_iff.mp done with ⟨asks, done⟩ | ⟨-, done⟩
  · simp only [Bool.and_eq_true, beq_iff_eq] at asks
    exact (typeOf_carries neat done).accounts kind
      (.inr (ordinary_of_mem ["typeof"] (by simp [asks]) (by decide)))
  rcases ite_eq_iff.mp done with ⟨creates, done⟩ | ⟨-, done⟩
  · exact (newError_carries done).accounts kind
      (.inr (ordinary_of_mem ["new"] (by simpa using creates) (by decide)))
  rcases ite_eq_iff.mp done with ⟨commands, done⟩ | ⟨noCommand, done⟩
  · obtain ⟨writes, gap⟩ := command_writes flat done
    refine (accounts_word_iff kind).mpr ⟨0, writes, ?_⟩
    rw [commands, Bool.eq_false_iff.mpr noLoop, outside, gap]
    exact Nat.zero_add _
  have ordinary : Ordinary language word :=
    ⟨fun same => noLoop (beq_iff_eq.mpr same), Bool.eq_false_iff.mpr noCommand⟩
  split at done
  · rename_i opening found
    have ahead : aheadSign? spot.rest "(" = some opening := by
      split at found
      · exact found
      · cases found
    obtain ⟨passed, parts, long, blank, -⟩ := aheadSign?_eq ahead
    cases done
    refine Carries.accounts ?_ kind (.inr ordinary)
    exact carries_skip ((Writes.refl state).emit (flat_append flat (by decide))) parts blank.bare
      (Nat.le_of_eq long.symm)
  · have carries : Carries state spot (name language state spot word) := name_carries language flat
    rw [Except.ok.inj done] at carries
    exact carries.accounts kind (.inr ordinary)

theorem word_accounts {text : String} (kind : spot.token.kind = .word text) (flat : Flat text)
    (neat : Neat spot.rest) (done : word language state spot text = .ok (next, taken)) :
    Accounts language state spot (next, taken) := by
  unfold word at done
  simp only at done
  split at done
  · rename_i call found
    cases done
    split at found
    · rename_i binds
      exact (boundCall?_carries neat found).accounts kind
        (.inr (ordinary_of_mem _ (List.contains_iff_mem.mp binds) (by decide)))
    · cases found
  split at done
  · rename_i behind
    cases done
    refine Carries.accounts ?_ kind (.inl behind)
    refine (Writes.refl state).emit ?_
    cases method : stringMethod? language text spot.rest with
    | none => exact renamed_flat flat
    | some other => exact stringMethod?_flat method
  · rename_i outside
    exact keyword_accounts kind (Bool.eq_false_iff.mpr outside) flat neat done

private theorem numberText_flat {text : String} (flat : Flat text) :
    Flat (numberText language text) := by
  unfold numberText
  simp only
  split
  · rw [Flat, String.toList_ofList, List.mem_reverse]
    exact fun member => flat (List.mem_reverse.mp ((List.dropWhile_suffix _).subset member))
  · exact flat

private theorem lineEnd_writes : Writes state (lineEnd state spot) 1 := by
  have closed := Writes.closeCommands state
  have ended : Writes state (if needsSemicolon state.closeCommands spot then
      { state.closeCommands with output := state.closeCommands.output.attach ";" }
      else state.closeCommands) 0 := by
    split
    · refine closed.trans (n := 0) fun neat => ⟨neat, ?_⟩
      exact state.closeCommands.output.breaks_attach ";"
    · exact closed
  exact ended.trans (Writes.pad _ "\n")

/-- Tokens other than words and strings gain and lose nothing. -/
private theorem accounts_other {n : Nat} {kind : Kind} (writes : Writes state next n)
    (is : spot.token.kind = kind) (same : n = kind.breaks + breaksIn (spot.rest.take taken))
    (noWord : ∀ text, kind ≠ .word text := by simp)
    (noString : ∀ body quote, kind ≠ .quoted body quote := by simp) :
    Accounts language state spot (next, taken) := by
  refine ⟨n, writes, ?_⟩
  unfold gained lost
  rw [is]
  cases kind with
  | quoted body quote => exact absurd rfl (noString body quote)
  | word text => exact absurd rfl (noWord text)
  | _ => exact same

/-- What one step preserves. -/
theorem step_accounts (own : spot.token.kind.Neat) (neat : Neat spot.rest)
    (done : step language state spot = .ok (next, taken)) :
    Accounts language state spot (next, taken) := by
  unfold step at done
  cases kind : spot.token.kind with
  | newline =>
    rw [kind] at done
    cases done
    exact accounts_other lineEnd_writes kind rfl
  | space text =>
    rw [kind] at done own
    cases done
    exact accounts_other (Writes.pad state text) kind (List.count_eq_zero.mpr own)
  | comment text =>
    rw [kind] at done
    cases done
    exact accounts_other (Writes.pad state text) kind rfl
  | number text =>
    rw [kind] at done own
    cases done
    exact accounts_other ((Writes.refl state).emit (numberText_flat own)) kind rfl
  | template body | regex pattern flags =>
    simp only [kind] at done
    cases done
    exact accounts_other (Writes.emit_count state _) kind (count_plainText (kind ▸ own))
  | quoted body quote =>
    rw [kind] at done
    cases done
    refine ⟨_, Writes.emit_count state _, ?_⟩
    unfold gained lost
    simp only [kind, Kind.breaks, String.toList_ofList]
    cases language == .groovy && quote == '"'
    · simp [Literal.count_quote]
    · simp [Literal.count_withDollars]
  | word text =>
    rw [kind] at done own
    exact word_accounts kind own neat done
  | sign text =>
    rw [kind] at done own
    exact accounts_other (sign_carries own neat done) kind (Nat.zero_add _).symm

/-- The tokens that steps begin with, each where it stands. The others are taken along. -/
def spots (language : Language) (state : State) (before tokens : List Token) : List Spot :=
  match tokens with
  | [] => []
  | token :: rest =>
    match step language state ⟨before, token, rest⟩ with
    | .error _ => [⟨before, token, rest⟩]
    | .ok (next, taken) =>
      ⟨before, token, rest⟩ ::
        spots language next ((rest.take taken).reverse ++ token :: before) (rest.drop taken)
termination_by tokens.length
decreasing_by
  simp only [List.length_drop, List.length_cons]
  omega

theorem steps_accounts {before tokens : List Token} {last : State} (neat : Neat tokens)
    (done : steps language state before tokens = .ok last) :
    ∃ n, Writes state last n ∧
      n + ((spots language state before tokens).map (lost language)).sum
        = breaksIn tokens + ((spots language state before tokens).map (gained language)).sum := by
  fun_induction steps language state before tokens generalizing last with
  | case1 state before =>
    cases done
    exact ⟨0, Writes.refl state, by simp [spots]⟩
  | case2 => cases done
  | case3 state before token rest next taken stepped ih =>
    have own : token.kind.Neat := neat token List.mem_cons_self
    have neatRest : Neat rest := fun other member => neat other (List.mem_cons_of_mem _ member)
    obtain ⟨n, writes, account⟩ := step_accounts own neatRest stepped
    obtain ⟨m, more, accounts⟩ := ih (fun other member => neatRest other (List.mem_of_mem_drop member))
      done
    refine ⟨n + m, writes.trans more, ?_⟩
    -- The tokens taken along are accounted for by this step, the others by the steps to come.
    have parts := congrArg breaksIn (List.take_append_drop taken rest)
    rw [breaksIn_append] at parts
    rw [spots, stepped]
    simp only [List.map_cons, List.sum_cons, breaksIn_cons] at account ⊢
    omega

/-- The tokens of a script that steps of its lowering begin with. -/
def scriptSpots (language : Language) (script : String) : List Spot :=
  match tokens script with
  | .ok found => spots language .start [] found
  | .error _ => []

def gainedIn (language : Language) (script : String) : Nat :=
  ((scriptSpots language script).map (gained language)).sum

def lostIn (language : Language) (script : String) : Nat :=
  ((scriptSpots language script).map (lost language)).sum

/-- The account of a whole script. -/
theorem lower_accounts {script text : String} (done : lower language script = .ok text) :
    text.toList.count '\n' + lostIn language script
      = script.toList.count '\n' + gainedIn language script := by
  simp only [lower, bind, Except.bind] at done
  split at done
  · cases done
  rename_i found read
  obtain ⟨held, neat⟩ := tokens_breaks read
  split at done
  · cases done
  rename_i last finished
  obtain ⟨n, writes, account⟩ := steps_accounts neat finished
  have spotted : scriptSpots language script = spots language .start [] found := by
    rw [scriptSpots, read]
  have written : last.closeCommands.output.breaks = n := by
    have start : State.start.Neat := fun _ member => by cases member
    rw [((writes.trans (Writes.closeCommands last)) start).2]
    exact Nat.zero_add n
  split at done
  · cases done
    rw [Output.count_text, written, gainedIn, lostIn, spotted]
    omega
  · cases done

/-- A script has as many line ends as its lowering exactly if it gains as many as it loses: with its
escapes in strings that become templates and its templates in bounds of counting loops, and with its
comments in front of arguments of commands. -/
theorem lower_keeps_breaks_iff {script text : String} (done : lower language script = .ok text) :
    text.toList.count '\n' + lostIn language script
        = script.toList.count '\n' + gainedIn language script ∧
      (text.toList.count '\n' = script.toList.count '\n' ↔
        gainedIn language script = lostIn language script) := by
  have account := lower_accounts done
  exact ⟨account, by omega⟩

/-- The escape of a line end in a template is one line end more. -/
theorem lower_keeps_breaks_iff_escape :
    lower .groovy "\"a\\n$x\"" = .ok "\x60a\n$\x7bx\x7d\x60" ∧
      gainedIn .groovy "\"a\\n$x\"" = 1 ∧ lostIn .groovy "\"a\\n$x\"" = 0 ∧
      "\x60a\n$\x7bx\x7d\x60".toList.count '\n' ≠ "\"a\\n$x\"".toList.count '\n' := by
  have done : lower .groovy "\"a\\n$x\"" = .ok "\x60a\n$\x7bx\x7d\x60" := by decide +kernel
  have gains : gainedIn .groovy "\"a\\n$x\"" = 1 := by decide +kernel
  have loses : lostIn .groovy "\"a\\n$x\"" = 0 := by decide +kernel
  refine ⟨done, gains, loses, fun kept => ?_⟩
  have same := (lower_keeps_breaks_iff done).2.mp kept
  rw [gains, loses] at same
  cases same

/-- A token that neither spans lines by itself nor turns into one that does. -/
def Plain (token : Token) : Prop :=
  match token.kind with
  | .template body => '\n' ∉ body
  | .comment text => Flat text
  | .quoted body _ => Literal.lineEscapes body = 0
  | _ => True

private theorem commandGap_of_plain {rest : List Token} (plain : ∀ token ∈ rest, Plain token) :
    commandGap rest = 0 := by
  unfold commandGap
  split
  · rename_i argument found
    rw [aheadOnLine?, Option.filter_eq_some_iff] at found
    obtain ⟨passed, parts, long, blank, -⟩ := ahead?_eq found.1
    have front : rest.take argument.passed = passed := by
      rw [parts]
      exact List.take_left' long
    rw [front] at found ⊢
    have unbroken : ∀ token ∈ passed, token.kind ≠ .newline := by simpa using found.2
    have line : breaksIn passed = 0 := by
      refine List.sum_eq_zero fun n member => ?_
      obtain ⟨token, inside, rfl⟩ := List.mem_map.mp member
      have own := plain token (by rw [parts]; exact List.mem_append_left _ inside)
      have idle := blank token inside
      cases kind : token.kind with
      | comment text =>
        rw [Plain, kind] at own
        exact List.count_eq_zero.mpr own
      | newline => exact absurd kind (unbroken token inside)
      | space text => rfl
      | _ => simp [Token.isMeaningful, Kind.isMeaningful, kind] at idle
    rw [line]
    exact ite_self 0
  · rfl

private theorem countingBounds_subset (rest : List Token) :
    ∀ token ∈ countingBounds rest, token ∈ rest := by
  intro token member
  unfold countingBounds at member
  split at member
  · cases member
  rename_i opening found
  obtain ⟨passed, parts, -, -, -⟩ := aheadSign?_eq found
  split at member
  · cases member
  rename_i inner closing after encloses
  split at member
  · rw [parts, (splitClosing?_eq encloses).1]
    simp [member]
  · cases member

private theorem templateBreaks_of_plain {inner : List Token} (plain : ∀ token ∈ inner, Plain token) :
    templateBreaks inner = 0 := by
  refine List.sum_eq_zero fun n member => ?_
  obtain ⟨token, inside, rfl⟩ := List.mem_map.mp member
  have own := plain token inside
  unfold Plain at own
  split
  · rename_i body kind
    rw [kind] at own
    exact List.count_eq_zero.mpr own
  · rfl

/-- Plain tokens leave nothing to gain or to lose. -/
private theorem account_of_plain (language : Language) (own : Plain spot.token)
    (plain : ∀ token ∈ spot.rest, Plain token) :
    gained language spot = 0 ∧ lost language spot = 0 := by
  unfold gained lost Plain at *
  cases kind : spot.token.kind with
  | quoted body quote =>
    rw [kind] at own
    exact ⟨by simp only [own, ite_self], rfl⟩
  | word text =>
    have loop := templateBreaks_of_plain fun token member =>
      plain token (countingBounds_subset spot.rest token member)
    exact ⟨by simp only [loop, ite_self], by simp only [commandGap_of_plain plain, ite_self]⟩
  | _ => exact ⟨rfl, rfl⟩

private theorem spots_subset {before tokens : List Token} :
    ∀ spot ∈ spots language state before tokens,
      spot.token ∈ tokens ∧ ∀ token ∈ spot.rest, token ∈ tokens := by
  fun_induction spots language state before tokens with
  | case1 => exact fun spot member => by cases member
  | case2 state before token rest =>
    intro spot member
    cases List.mem_singleton.mp member
    exact ⟨List.mem_cons_self, fun other => List.mem_cons_of_mem _⟩
  | case3 state before token rest next taken stepped ih =>
    rintro spot (_ | ⟨_, member⟩)
    · exact ⟨List.mem_cons_self, fun other => List.mem_cons_of_mem _⟩
    · obtain ⟨own, more⟩ := ih spot member
      exact ⟨List.mem_cons_of_mem _ (List.mem_of_mem_drop own), fun other inside =>
        List.mem_cons_of_mem _ (List.mem_of_mem_drop (more other inside))⟩

/-- Scripts of plain tokens keep their lines. -/
theorem lower_keeps_plain_breaks {script text : String} {found : List Token}
    (read : tokens script = .ok found) (plain : ∀ token ∈ found, Plain token)
    (done : lower language script = .ok text) :
    text.toList.count '\n' = script.toList.count '\n' := by
  have quiet : ∀ spot ∈ scriptSpots language script,
      gained language spot = 0 ∧ lost language spot = 0 := by
    intro spot member
    rw [scriptSpots, read] at member
    obtain ⟨own, more⟩ := spots_subset spot member
    exact account_of_plain language (plain _ own) fun token inside => plain _ (more token inside)
  have noGain : gainedIn language script = 0 := List.sum_eq_zero fun n member => by
    obtain ⟨spot, inside, rfl⟩ := List.mem_map.mp member
    exact (quiet spot inside).1
  have noLoss : lostIn language script = 0 := List.sum_eq_zero fun n member => by
    obtain ⟨spot, inside, rfl⟩ := List.mem_map.mp member
    exact (quiet spot inside).2
  have account := lower_accounts done
  omega

end ApiProbe.Script.Lowering
