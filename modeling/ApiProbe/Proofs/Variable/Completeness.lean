import ApiProbe.Proofs.Variable.Settling

/-!
What a substitution without warnings says of its tokens. Every token that it meets is replaced by a
value or leaves a warning, with the one exception of blank tokens, which stay without a word.
-/
namespace ApiProbe.Substitution

/-- A token in whose place a value stands: a generated one, or one of a variable in which there is
nothing to replace. -/
inductive Met.Replaced (source : Source) (now : Instant) (met : Met) : Prop
  | generated (generates : met.Generates) (honoured : Generated.Honoured now met.name)
  | value {value : String} (defined : met.value? source = some value)
    (flat : mayRefer value.toList = false)

section Silence
variable {source : Source} {depth : Nat} {now : Instant} {part : Part} {share : Share}

/-- What a token leaves that is not replaced: a blank one just itself, any other one warning, and
itself or a value that refers too deep. -/
theorem Settles.unreplaced {met : Met} (settles : Settles source depth now (.token met) share)
    (unreplaced : ¬met.Replaced source now) :
    (met.Blank ∧ share = ⟨met.literal, []⟩) ∨
      (¬met.Blank ∧ share.warnings.length = 1 ∧
        (share.text = met.literal ∨ ∃ value, met.value? source = some value ∧ share.text = value.toList)) := by
  cases settles with
  | blank blank => exact .inl ⟨blank, rfl⟩
  | generated generates honoured => exact absurd (.generated generates honoured) unreplaced
  | refused generates =>
    refine .inr ⟨fun blank => ?_, rfl, .inl rfl⟩
    rw [Met.Generates, blank] at generates
    cases generates
  | circular visible | undefined visible => exact .inr ⟨visible, rfl, .inl rfl⟩
  | replaced defined flat => exact absurd (.value defined flat) unreplaced
  | tooDeep defined =>
    refine .inr ⟨fun blank => ?_, rfl, .inr ⟨_, defined, rfl⟩⟩
    simp [Met.value?, blank] at defined

theorem Settles.of_replaced {met : Met} (settles : Settles source depth now (.token met) share)
    (replaced : met.Replaced source now) : share.warnings = [] := by
  cases settles with
  | refused generates dishonoured =>
    cases replaced with
    | generated _ honoured => exact absurd honoured dishonoured
    | value defined => simp [Met.value?, generates] at defined
  | circular visible ordinary held =>
    cases replaced with
    | generated generates => exact absurd generates ordinary
    | value defined => simp [Met.value?, held] at defined
  | undefined visible ordinary absent =>
    cases replaced with
    | generated generates => exact absurd generates ordinary
    | value defined => simp [Met.value?, absent] at defined
  | tooDeep defined refers =>
    cases replaced with
    | generated generates => simp [Met.value?, generates] at defined
    | value same flat =>
      cases defined.symm.trans same
      simp [refers] at flat
  | _ => rfl

theorem Settles.silent_iff (settles : Settles source depth now part share) :
    share.warnings = [] ↔ ∀ met ∈ part.met?, met.Blank ∨ met.Replaced source now := by
  cases part with
  | plain c =>
    cases settles
    simp [Part.met?]
  | token met =>
    simp only [Part.met?, Option.mem_some_iff, forall_eq']
    by_cases replaced : met.Replaced source now
    · simp [settles.of_replaced replaced, replaced]
    · rcases settles.unreplaced replaced with ⟨blank, rfl⟩ | ⟨visible, one, -⟩
      · simp [blank]
      · have some_ : share.warnings ≠ [] := by
          intro none_
          rw [none_] at one
          cases one
        simp [some_, visible, replaced]

/-- A substitution is complete exactly if it meets no token that it does not replace, but for blank
ones. A token that is not replaced leaves one warning, unless it is blank: then it is left as it is
without a word. -/
theorem silent_iff_blank {supply : Supply} {text : String} {outcome : Outcome}
    (done : run source depth supply text = .ok outcome) :
    (outcome.warnings = [] ↔
        ∀ met ∈ tokensMet source depth text, met.Blank ∨ met.Replaced source supply.now) ∧
      ∃ shares, outcome.Joins text shares ∧
        List.Forall₂ (fun part share => ∀ met ∈ part.met?, ¬met.Replaced source supply.now →
            (met.Blank ∧ share = ⟨met.literal, []⟩) ∨
            (¬met.Blank ∧ share.warnings.length = 1 ∧ (share.text = met.literal ∨
              ∃ value, met.value? source = some value ∧ share.text = value.toList)))
          (textParts source depth text.toList) shares := by
  have ends := run_ends source depth supply text
  rw [done] at ends
  obtain ⟨-, shares, joins, settled⟩ := ends
  refine ⟨?_, shares, joins, settled.imp (fun part share settles => ?_)⟩
  · rw [joins.warnings, List.flatMap_eq_nil_iff, tokensMet]
    generalize textParts source depth text.toList = row at settled
    clear joins
    induction settled with
    | nil => simp [metIn]
    | cons settles _ ih =>
      simp only [List.forall_mem_cons, settles.silent_iff, ih, mem_metIn_cons, or_imp, forall_and]
  · rintro met member
    cases part with
    | plain c => cases member
    | token own =>
      cases member
      exact settles.unreplaced

end Silence

/-- A token of blanks stays, and nothing is said of it. -/
theorem silent_iff_blank_token :
    run (fun _ => none) 5 ⟨⟨0⟩, 0⟩ "{{ }}" = .ok ⟨"{{ }}".toList, [], ⟨⟨0⟩, 0⟩⟩ ∧
      ∃ met ∈ tokensMet (fun _ => none) 5 "{{ }}", met.Blank ∧ ¬met.Replaced (fun _ => none) ⟨0⟩ := by
  have row : pieces (shield "{{ }}".toList) = [.token [' ']] := by cbv
  have refers : mayRefer "{{ }}".toList = true := by decide
  have done : run (fun _ => none) 5 ⟨⟨0⟩, 0⟩ "{{ }}" = .ok ⟨"{{ }}".toList, [], ⟨⟨0⟩, 0⟩⟩ := by
    rw [run, if_pos refers, expand, row]
    rfl
  have met : (⟨[], 5, [' ']⟩ : Met) ∈ tokensMet (fun _ => none) 5 "{{ }}" := by
    rw [tokensMet_single refers row (opened?_absent _)]
    exact List.mem_singleton_self _
  have blank : Met.Blank ⟨[], 5, [' ']⟩ := by decide
  have settled := (silent_iff_blank done).1.mp rfl _ met
  refine ⟨done, _, met, settled.resolve_right ?_, ?_⟩ <;>
    · rintro (⟨generates, -⟩ | ⟨defined, -⟩)
      · exact absurd generates (by decide)
      · cases defined

end ApiProbe.Substitution
