import ApiProbe.Proofs.Variable.Expansion
import ApiProbe.Proofs.Variable.Generation
import Mathlib.Data.List.Forall2

/-!
What becomes of the tokens that a substitution meets. Tokens of variables whose values refer further
are opened as long as levels are left: the parts of the value stand in their place. All other tokens
are settled where they stand, each by itself, and the outcome is what the parts give in a row.

A substitution comes to nothing exactly if it meets an offset beyond the calendar.
-/
namespace ApiProbe.Substitution

/-- A token where it is met: the names whose values it stands in, innermost first, and the levels of
reference that are left to it. -/
structure Met where
  holders : List String
  levels : Nat
  inner : List Char

namespace Met

def name (met : Met) : String := nameOf met.inner

def literal (met : Met) : List Char := (Piece.token met.inner).source

def Blank (met : Met) : Prop := Text.trimChars met.inner = []

/-- True of tokens that stand for generated values. -/
def Generates (met : Met) : Prop := (Text.trimChars met.inner).head? = some '$'

instance (met : Met) : Decidable met.Blank := inferInstanceAs (Decidable (_ = _))

instance (met : Met) : Decidable met.Generates := inferInstanceAs (Decidable (_ = _))

/-- The value of the variable that a token names, unless the token stands in that very value. -/
def value? (source : Source) (met : Met) : Option String :=
  if met.Blank ∨ met.Generates ∨ met.name ∈ met.holders then none else source met.name

/-- The value to be expanded in place of a token. -/
def opened? (source : Source) (met : Met) : Option String :=
  (met.value? source).filter fun value => mayRefer value.toList

end Met

/-- A part of a text in which tokens have been opened. -/
inductive Part
  | plain (c : Char)
  | token (met : Met)

def Part.met? : Part → Option Met
  | .plain _ => none
  | .token met => some met

/-- The parts of a text, with those of values in place of the tokens that are opened. -/
def parts (source : Source) : Nat → List String → List Char → List Part
  | 0, holders, text => (pieces (shield text)).map fun
    | .plain c => .plain c
    | .token inner => .token ⟨holders, 0, inner⟩
  | levels + 1, holders, text => (pieces (shield text)).flatMap fun
    | .plain c => [.plain c]
    | .token inner =>
      match (Met.mk holders (levels + 1) inner).opened? source with
      | some value => parts source levels (nameOf inner :: holders) value.toList
      | none => [.token ⟨holders, levels + 1, inner⟩]

/-- What a part gives to the text and to the warnings. -/
structure Share where
  text : List Char
  warnings : List Warning

/-- What a part may give. -/
inductive Settles (source : Source) (depth : Nat) (now : Instant) : Part → Share → Prop
  | plain (c : Char) : Settles source depth now (.plain c) ⟨[c], []⟩
  | blank {met : Met} (blank : met.Blank) : Settles source depth now (.token met) ⟨met.literal, []⟩
  | generated {met : Met} (generates : met.Generates)
    (honoured : Generated.Honoured now met.name) (value : String) :
    Settles source depth now (.token met) ⟨value.toList, []⟩
  | refused {met : Met} (generates : met.Generates)
    (dishonoured : ¬Generated.Honoured now met.name) (error : VariableError) :
    Settles source depth now (.token met) ⟨met.literal, [.unresolved met.name error]⟩
  | circular {met : Met} (visible : ¬met.Blank) (ordinary : ¬met.Generates)
    (held : met.name ∈ met.holders) :
    Settles source depth now (.token met) ⟨met.literal, [.circular met.name]⟩
  | undefined {met : Met} (visible : ¬met.Blank) (ordinary : ¬met.Generates)
    (absent : source met.name = none) :
    Settles source depth now (.token met) ⟨met.literal, [.undefined met.name]⟩
  | replaced {met : Met} {value : String} (defined : met.value? source = some value)
    (flat : mayRefer value.toList = false) :
    Settles source depth now (.token met) ⟨value.toList, []⟩
  | tooDeep {met : Met} {value : String} (defined : met.value? source = some value)
    (refers : mayRefer value.toList = true) :
    Settles source depth now (.token met) ⟨value.toList, [.tooDeep depth met.name]⟩

/-- A token with an offset that has no answer. -/
def Met.Beyond (now : Instant) (met : Met) : Prop :=
  met.Generates ∧ Generated.BeyondCalendar now met.name

section Settling
variable (source : Source) (depth : Nat)

/-- The outcome of a part by itself. -/
def settle (supply : Supply) : Part → Except Abort Outcome
  | .plain c => .ok ⟨[c], [], supply⟩
  | .token met => expandPiece source depth met.holders none supply (.token met.inner)

/-- The outcome of parts in a row. -/
def settleAll (supply : Supply) : List Part → Except Abort Outcome
  | [] => .ok ⟨[], [], supply⟩
  | part :: rest => do
    let first ← settle source depth supply part
    let others ← settleAll first.supply rest
    pure ⟨first.text ++ others.text, first.warnings ++ others.warnings, others.supply⟩

/-- How a part ends: with its share, the time unchanged, or with an offset beyond the calendar. -/
inductive Ends (supply : Supply) (part : Part) : Except Abort Outcome → Prop
  | done {outcome : Outcome} (same : outcome.supply.now = supply.now)
    (within : ∀ met ∈ part.met?, ¬met.Beyond supply.now)
    (settles : Settles source depth supply.now part ⟨outcome.text, outcome.warnings⟩) :
    Ends supply part (.ok outcome)
  | broken {abort : Abort} {met : Met} (member : met ∈ part.met?) (beyond : met.Beyond supply.now) :
    Ends supply part (.error abort)

variable {source depth}

theorem generate_ends (supply : Supply) {met : Met} (generates : met.Generates) :
    Ends source depth supply (.token met) (generate supply met.name met.literal) := by
  have within (fails : ¬Generated.BeyondCalendar supply.now met.name) :
      ∀ other ∈ (Part.token met).met?, ¬other.Beyond supply.now := by
    rintro other ⟨⟩ beyond
    exact fails beyond.2
  have answers := Generated.evaluate_answers supply met.name
  unfold generate
  cases answer : Generated.evaluate supply met.name with
  | ok result =>
    obtain ⟨value, rest⟩ := result
    rw [answer] at answers
    cases answers with
    | value honoured inside =>
      exact .done (Generated.evaluate_now answer) (within inside) (.generated generates honoured value)
  | error trouble =>
    rw [answer] at answers
    cases answers with
    | refusal dishonoured inside error =>
      exact .done rfl (within inside) (.refused generates dishonoured error)
    | none _ beyond => exact .broken rfl ⟨generates, beyond⟩

/-- The outcome of a token, case by case. -/
theorem expandPiece_met (nested : Option (Supply → List String → List Char → Except Abort Outcome))
    (supply : Supply) (met : Met) :
    expandPiece source depth met.holders nested supply (.token met.inner) =
      if met.Blank then .ok ⟨met.literal, [], supply⟩
      else if met.Generates then generate supply met.name met.literal
      else if met.name ∈ met.holders then .ok ⟨met.literal, [.circular met.name], supply⟩
      else
        match source met.name with
        | none => .ok ⟨met.literal, [.undefined met.name], supply⟩
        | some value =>
          if mayRefer value.toList then
            match nested with
            | none => .ok ⟨value.toList, [.tooDeep depth met.name], supply⟩
            | some expandValue => expandValue supply (met.name :: met.holders) value.toList
          else .ok ⟨value.toList, [], supply⟩ := by
  simp only [expandPiece, Met.Blank, Met.Generates, Met.name, Met.literal, nameOf,
    List.isEmpty_iff, beq_iff_eq, List.contains_iff_mem]
  refine if_congr Iff.rfl rfl (if_congr Iff.rfl rfl (if_congr Iff.rfl rfl ?_))
  cases source (String.ofList (Text.trimChars met.inner)) with
  | none => rfl
  | some value =>
    dsimp only
    cases mayRefer value.toList <;> rfl

theorem value?_eq {met : Met} (visible : ¬met.Blank) (ordinary : ¬met.Generates)
    (fresh : met.name ∉ met.holders) : met.value? source = source met.name := by
  simp [Met.value?, visible, ordinary, fresh]

theorem settle_ends (supply : Supply) (part : Part) :
    Ends source depth supply part (settle source depth supply part) := by
  cases part with
  | plain c => exact .done rfl (by rintro _ ⟨⟩) (.plain c)
  | token met =>
    rw [settle, expandPiece_met]
    by_cases generates : met.Generates
    · have visible : ¬met.Blank := by
        intro blank
        rw [Met.Generates, blank] at generates
        cases generates
      rw [if_neg visible, if_pos generates]
      exact generate_ends supply generates
    have within : ∀ other ∈ (Part.token met).met?, ¬other.Beyond supply.now := by
      rintro other ⟨⟩ beyond
      exact generates beyond.1
    by_cases visible : met.Blank
    · rw [if_pos visible]
      exact .done rfl within (.blank visible)
    rw [if_neg visible, if_neg generates]
    by_cases held : met.name ∈ met.holders
    · rw [if_pos held]
      exact .done rfl within (.circular visible generates held)
    rw [if_neg held]
    have value : met.value? source = source met.name := value?_eq visible generates held
    split
    · rename_i absent
      exact .done rfl within (.undefined visible generates absent)
    · rename_i found defined
      have known := value.trans defined
      split
      · rename_i refers
        exact .done rfl within (.tooDeep known refers)
      · rename_i flat
        exact .done rfl within (.replaced known (Bool.eq_false_iff.mpr flat))

/-- The tokens among parts. -/
def metIn (row : List Part) : List Met := row.filterMap Part.met?

theorem mem_metIn_cons {met : Met} {part : Part} {rest : List Part} :
    met ∈ metIn (part :: rest) ↔ met ∈ part.met? ∨ met ∈ metIn rest := by
  cases part <;> simp [metIn, Part.met?, eq_comm]

/-- How parts end in a row. -/
inductive EndsAll (source : Source) (depth : Nat) (supply : Supply) (row : List Part) :
    Except Abort Outcome → Prop
  | done {outcome : Outcome} (same : outcome.supply.now = supply.now)
    (within : ∀ met ∈ metIn row, ¬met.Beyond supply.now) (shares : List Share)
    (settled : List.Forall₂ (Settles source depth supply.now) row shares)
    (text : outcome.text = shares.flatMap Share.text)
    (warnings : outcome.warnings = shares.flatMap Share.warnings) :
    EndsAll source depth supply row (.ok outcome)
  | broken {abort : Abort} {met : Met} (member : met ∈ metIn row) (beyond : met.Beyond supply.now) :
    EndsAll source depth supply row (.error abort)

theorem settleAll_ends (supply : Supply) (row : List Part) :
    EndsAll source depth supply row (settleAll source depth supply row) := by
  induction row generalizing supply with
  | nil => exact .done rfl (by simp [metIn]) [] .nil rfl rfl
  | cons part rest ih =>
    simp only [settleAll, bind, Except.bind]
    have ends : Ends source depth supply part (settle source depth supply part) :=
      settle_ends supply part
    cases own : settle source depth supply part with
    | error abort =>
      rw [own] at ends
      cases ends with
      | broken member beyond => exact .broken (mem_metIn_cons.mpr (.inl member)) beyond
    | ok first =>
      rw [own] at ends
      cases ends with
      | done same within settles =>
        have others := ih first.supply
        dsimp only
        cases later : settleAll source depth first.supply rest with
        | error abort =>
          rw [later] at others
          cases others with
          | broken member beyond =>
            rw [same] at beyond
            exact .broken (mem_metIn_cons.mpr (.inr member)) beyond
        | ok second =>
          rw [later] at others
          cases others with
          | done same' within' shares settled text warnings =>
            rw [same] at same' within' settled
            refine .done same' ?_ (⟨first.text, first.warnings⟩ :: shares) (.cons settles settled) ?_ ?_
            · intro met member
              rcases mem_metIn_cons.mp member with here | there
              · exact within met here
              · exact within' met there
            · simp [text]
            · simp [warnings]

/-- An outcome with its stand-ins turned into braces. -/
def Outcome.shown (outcome : Outcome) : Outcome := { outcome with text := unshield outcome.text }

theorem unshield_append (first second : List Char) :
    unshield (first ++ second) = unshield first ++ unshield second :=
  List.flatMap_append

theorem unshield_unmarked (text : List Char) :
    ∀ c ∈ unshield text, c ≠ openMark ∧ c ≠ closeMark := by
  intro c member
  obtain ⟨d, -, inside⟩ := List.mem_flatMap.mp member
  have braces : ('{' ≠ openMark ∧ '{' ≠ closeMark) ∧ '}' ≠ openMark ∧ '}' ≠ closeMark := by decide
  split at inside
  · have same : c = '{' := by simpa using inside
    exact same ▸ braces.1
  · rename_i noOpen
    split at inside
    · have same : c = '}' := by simpa using inside
      exact same ▸ braces.2
    · rename_i noClose
      obtain rfl := List.mem_singleton.mp inside
      exact ⟨fun same => noOpen (by simp [same]), fun same => noClose (by simp [same])⟩

theorem unshield_unshield (text : List Char) : unshield (unshield text) = unshield text :=
  unshield_eq (unshield_unmarked text)

theorem settleAll_single (supply : Supply) (part : Part) :
    settleAll source depth supply [part] = settle source depth supply part := by
  rw [settleAll]
  cases settle source depth supply part with
  | error abort => rfl
  | ok outcome => simp [settleAll, bind, Except.bind, pure, Except.pure]

theorem settleAll_append (supply : Supply) (front back : List Part) :
    settleAll source depth supply (front ++ back) = (do
      let first ← settleAll source depth supply front
      let others ← settleAll source depth first.supply back
      pure ⟨first.text ++ others.text, first.warnings ++ others.warnings, others.supply⟩) := by
  induction front generalizing supply with
  | nil =>
    simp only [List.nil_append, settleAll, bind, Except.bind]
    cases settleAll source depth supply back <;> rfl
  | cons part rest ih =>
    rw [List.cons_append, settleAll, settleAll]
    cases settle source depth supply part with
    | error abort => rfl
    | ok first =>
      simp only [bind, Except.bind, ih]
      cases settleAll source depth first.supply rest with
      | error abort => rfl
      | ok second =>
        simp only [pure, Except.pure]
        cases settleAll source depth second.supply back <;> simp

/-- Pieces that end as the parts they are opened to end in a row as all these parts do. -/
theorem joinAll_shown {step : Supply → Piece → Except Abort Outcome} {opens : Piece → List Part}
    {row : List Piece} (each : ∀ supply, ∀ piece ∈ row, (step supply piece).map Outcome.shown
      = (settleAll source depth supply (opens piece)).map Outcome.shown) (supply : Supply) :
    (joinAll step supply row).map Outcome.shown
      = (settleAll source depth supply (row.flatMap opens)).map Outcome.shown := by
  induction row generalizing supply with
  | nil => rfl
  | cons piece rest ih =>
    have own := each supply piece List.mem_cons_self
    have others := ih fun supply other member => each supply other (List.mem_cons_of_mem piece member)
    rw [List.flatMap_cons, settleAll_append, joinAll]
    cases one : step supply piece with
    | error abort =>
      cases two : settleAll source depth supply (opens piece) with
      | error other =>
        rw [one, two] at own
        cases own
        rfl
      | ok second =>
        rw [one, two] at own
        cases own
    | ok first =>
      cases two : settleAll source depth supply (opens piece) with
      | error other =>
        rw [one, two] at own
        cases own
      | ok second =>
        rw [one, two] at own
        obtain ⟨text, warnings, left⟩ := Outcome.mk.inj (Except.ok.inj own)
        have tail := others second.supply
        simp only [bind, Except.bind, left, warnings]
        cases third : joinAll step second.supply rest with
        | error abort =>
          cases fourth : settleAll source depth second.supply (rest.flatMap opens) with
          | error other =>
            rw [third, fourth] at tail
            cases tail
            rfl
          | ok last =>
            rw [third, fourth] at tail
            cases tail
        | ok last =>
          cases fourth : settleAll source depth second.supply (rest.flatMap opens) with
          | error other =>
            rw [third, fourth] at tail
            cases tail
          | ok end_ =>
            rw [third, fourth] at tail
            obtain ⟨text', warnings', left'⟩ := Outcome.mk.inj (Except.ok.inj tail)
            simp [pure, Except.pure, Except.map, Outcome.shown, unshield_append, text, text', warnings',
              left']

theorem expandPiece_unopened {met : Met} (unopened : met.opened? source = none)
    (nested : Option (Supply → List String → List Char → Except Abort Outcome)) (supply : Supply) :
    expandPiece source depth met.holders nested supply (.token met.inner)
      = settle source depth supply (.token met) := by
  rw [settle, expandPiece_met, expandPiece_met]
  split
  · rfl
  split
  · rfl
  split
  · rfl
  rename_i visible ordinary fresh
  rw [Met.opened?, value?_eq visible ordinary fresh] at unopened
  split
  · rfl
  · rename_i value defined
    have flat : mayRefer value.toList = false := by simpa [defined] using unopened
    simp [flat]

theorem expandPiece_opened {met : Met} {value : String} (opened : met.opened? source = some value)
    (nested : Supply → List String → List Char → Except Abort Outcome) (supply : Supply) :
    expandPiece source depth met.holders (some nested) supply (.token met.inner)
      = nested supply (met.name :: met.holders) value.toList := by
  obtain ⟨known, refers⟩ := Option.filter_eq_some_iff.mp opened
  unfold Met.value? at known
  split at known
  · cases known
  · rename_i free
    obtain ⟨visible, ordinary, fresh⟩ := not_or.mp free |>.imp_right not_or.mp
    rw [expandPiece_met, if_neg visible, if_neg ordinary, if_neg fresh, known]
    exact if_pos refers

theorem map_shown_shown (result : Except Abort Outcome) :
    (result.map Outcome.shown).map Outcome.shown = result.map Outcome.shown := by
  cases result with
  | error abort => rfl
  | ok outcome => simp [Except.map, Outcome.shown, unshield_unshield]

/-- One pass over a text, whose pieces are opened to parts. -/
theorem pass_eq_settleAll {nested : Option (Supply → List String → List Char → Except Abort Outcome)}
    {holders : List String} {opens : Piece → List Part} (text : List Char)
    (each : ∀ supply piece, (expandPiece source depth holders nested supply piece).map Outcome.shown
      = (settleAll source depth supply (opens piece)).map Outcome.shown) (supply : Supply) :
    (do
      let outcome ← joinAll (expandPiece source depth holders nested) supply (pieces (shield text))
      pure { outcome with text := unshield outcome.text }) =
      (settleAll source depth supply ((pieces (shield text)).flatMap opens)).map Outcome.shown := by
  rw [← joinAll_shown (fun supply piece _ => each supply piece) supply]
  cases joinAll (expandPiece source depth holders nested) supply (pieces (shield text)) <;> rfl

/-- A text is expanded by settling its parts. -/
theorem expand_eq_settleAll (levels : Nat) (supply : Supply) (holders : List String)
    (text : List Char) :
    expand source depth levels supply holders text
      = (settleAll source depth supply (parts source levels holders text)).map Outcome.shown := by
  induction levels generalizing supply holders text with
  | zero =>
    rw [expand, parts, ← List.flatMap_singleton' (List.map _ _), List.flatMap_map]
    refine pass_eq_settleAll text (fun supply piece => ?_) supply
    rw [settleAll_single]
    cases piece <;> rfl
  | succ levels ih =>
    rw [expand, parts]
    refine pass_eq_settleAll text (fun supply piece => ?_) supply
    cases piece with
    | plain c => rfl
    | token inner =>
      dsimp only
      split
      · rename_i value opened
        rw [expandPiece_opened opened, ih]
        exact map_shown_shown _
      · rename_i unopened
        rw [settleAll_single, expandPiece_unopened unopened]

theorem settleAll_plain (supply : Supply) (text : List Char) :
    settleAll source depth supply (text.map .plain) = .ok ⟨text, [], supply⟩ := by
  induction text with
  | nil => rfl
  | cons c rest ih =>
    simp only [List.map_cons, settleAll, bind, Except.bind, settle, ih]
    rfl

end Settling

/-- The parts of a whole text. A text without doubled braces is not looked into. -/
def textParts (source : Source) (depth : Nat) (text : List Char) : List Part :=
  if mayRefer text then parts source depth [] text else text.map .plain

/-- The tokens that a substitution meets and does not open. -/
def tokensMet (source : Source) (depth : Nat) (text : String) : List Met :=
  metIn (textParts source depth text.toList)

/-- What is written of the texts that parts give. -/
def written (text : String) (chars : List Char) : List Char :=
  if mayRefer text.toList then unshield chars else chars

/-- An outcome put together from the shares of parts. -/
structure Outcome.Joins (outcome : Outcome) (text : String) (shares : List Share) : Prop where
  text : outcome.text = written text (shares.flatMap Share.text)
  warnings : outcome.warnings = shares.flatMap Share.warnings

section Runs
variable (source : Source) (depth : Nat) (supply : Supply) (text : String)

theorem run_eq_settleAll : run source depth supply text =
    (settleAll source depth supply (textParts source depth text.toList)).map fun outcome =>
      { outcome with text := written text outcome.text } := by
  unfold run textParts
  split
  · rename_i refers
    rw [expand_eq_settleAll]
    simp only [written, refers, if_true]
    rfl
  · rename_i flat
    simp only [settleAll_plain, written, flat]
    rfl

/-- How a substitution ends. -/
theorem run_ends :
    match run source depth supply text with
    | .error _ => ∃ met ∈ tokensMet source depth text, met.Beyond supply.now
    | .ok outcome =>
      (∀ met ∈ tokensMet source depth text, ¬met.Beyond supply.now) ∧
        ∃ shares, outcome.Joins text shares ∧
          List.Forall₂ (Settles source depth supply.now) (textParts source depth text.toList)
            shares := by
  have ends : EndsAll source depth supply (textParts source depth text.toList) _ :=
    settleAll_ends supply (textParts source depth text.toList)
  rw [run_eq_settleAll]
  cases result : settleAll source depth supply (textParts source depth text.toList) with
  | error abort =>
    rw [result] at ends
    cases ends with
    | broken member beyond => exact ⟨_, member, beyond⟩
  | ok outcome =>
    rw [result] at ends
    cases ends with
    | done _ within shares settled own warnings =>
      exact ⟨within, shares, ⟨congrArg (written text) own, warnings⟩, settled⟩

/-- A substitution comes to nothing exactly if it meets an offset that moves the time out of the
calendar. Otherwise it returns, and every token of a generated value that it meets and that is not
honoured stays as it is and adds one warning. -/
theorem run_settles :
    match run source depth supply text with
    | .error _ => ∃ met ∈ tokensMet source depth text, met.Beyond supply.now
    | .ok outcome =>
      (∀ met ∈ tokensMet source depth text, ¬met.Beyond supply.now) ∧
        ∃ shares, outcome.Joins text shares ∧
          List.Forall₂ (fun part share => ∀ met ∈ part.met?, met.Generates →
              ¬Generated.Honoured supply.now met.name →
                ∃ error, share = ⟨met.literal, [.unresolved met.name error]⟩)
            (textParts source depth text.toList) shares := by
  have ends := run_ends source depth supply text
  split at ends
  · exact ends
  · obtain ⟨within, shares, joins, settled⟩ := ends
    refine ⟨within, shares, joins, settled.imp (fun part share settles => ?_)⟩
    rintro met member generates dishonoured
    cases settles with
    | plain => cases member
    | blank blank =>
      cases member
      rw [Met.Generates, blank] at generates
      cases generates
    | generated _ honoured =>
      cases member
      exact absurd honoured dishonoured
    | refused _ _ error =>
      cases member
      exact ⟨error, rfl⟩
    | circular _ ordinary | undefined _ ordinary =>
      cases member
      exact absurd generates ordinary
    | replaced defined | tooDeep defined =>
      cases member
      simp [Met.value?, generates] at defined

end Runs

theorem opened?_absent (met : Met) : met.opened? (fun _ => none) = none := by
  simp [Met.opened?, Met.value?]

/-- A text that is one token meets that token. -/
theorem tokensMet_single {source : Source} {depth : Nat} {text : String} {inner : List Char}
    (refers : mayRefer text.toList = true) (row : pieces (shield text.toList) = [.token inner])
    (unopened : (Met.mk [] depth inner).opened? source = none) :
    tokensMet source depth text = [⟨[], depth, inner⟩] := by
  rw [tokensMet, textParts, if_pos refers]
  cases depth with
  | zero => simp [parts, row, metIn, Part.met?]
  | succ levels => simp [parts, row, unopened, metIn, Part.met?]

/-- No offset of 64 bits is too large to be read, but most lead out of the calendar. -/
theorem run_settles_beyond_calendar :
    ∃ abort, run (fun _ => none) 5 ⟨⟨0⟩, 0⟩ "{{$timestamp 9223372036854775807 d}}" = .error abort := by
  have settles := run_settles (fun _ => none) 5 ⟨⟨0⟩, 0⟩ "{{$timestamp 9223372036854775807 d}}"
  have met : (⟨[], 5, "$timestamp 9223372036854775807 d".toList⟩ : Met)
      ∈ tokensMet (fun _ => none) 5 "{{$timestamp 9223372036854775807 d}}" := by
    have row : pieces (shield "{{$timestamp 9223372036854775807 d}}".toList)
        = [.token "$timestamp 9223372036854775807 d".toList] := by cbv
    rw [tokensMet_single (by decide) row (opened?_absent _)]
    exact List.mem_singleton_self _
  have beyond : Met.Beyond ⟨0⟩ ⟨[], 5, "$timestamp 9223372036854775807 d".toList⟩ := by
    refine ⟨by decide, "timestamp", ["9223372036854775807", "d"], by decide +kernel, ?_⟩
    exact ⟨"9223372036854775807", "d", [], 9223372036854775807 * 86400000, rfl, by decide +kernel, by decide +kernel⟩
  split at settles
  · exact ⟨_, by assumption⟩
  · exact absurd beyond (settles.1 _ met)

end ApiProbe.Substitution
