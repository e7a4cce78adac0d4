import ApiProbe.Proofs.Variable.Escapes

/-!
The depth of a substitution only cuts it off. Where nothing was left unexpanded for want of depth, a
greater depth changes neither the text nor the warnings.

Both expansions are followed piece by piece. What the shallower one gives, if it is not cut off, the
deeper one gives as well (`Kept`).
-/
namespace ApiProbe.Substitution

/-- A value was inserted unexpanded because no level was left. -/
def Warning.IsCut : Warning → Prop
  | .tooDeep _ _ => True
  | _ => False

/-- True of outcomes that were not cut off anywhere. -/
def Outcome.Whole (outcome : Outcome) : Prop := ∀ warning ∈ outcome.warnings, ¬warning.IsCut

theorem whole_join_iff {one others : Outcome} : (one.join others).Whole ↔ one.Whole ∧ others.Whole := by
  simp only [Outcome.Whole, Outcome.join]
  exact List.forall_mem_append

theorem not_whole_tooDeep (text : List Char) (depth : Nat) (name : String) (supply : Supply) :
    ¬(Outcome.mk text [.tooDeep depth name] supply).Whole := by
  intro whole
  exact whole _ (List.mem_singleton_self _) trivial

/-- What one expansion gives without being cut off, another one gives as well. -/
def Kept (shallow deep : Except Abort Outcome) : Prop :=
  ∀ outcome, shallow = .ok outcome → outcome.Whole → deep = .ok outcome

namespace Kept
variable {first first' : Except Abort Outcome} {rest rest' : Supply → Except Abort Outcome}

theorem refl (result : Except Abort Outcome) : Kept result result := by
  intro outcome same _
  exact same

theorem shown (own : Kept first first') : Kept (first.map Outcome.shown) (first'.map Outcome.shown) := by
  intro outcome same whole
  cases first with
  | error abort => cases same
  | ok shallow =>
    cases same
    rw [own shallow rfl whole]
    rfl

theorem followedBy (own : Kept first first') (later : ∀ supply, Kept (rest supply) (rest' supply)) :
    Kept (followedBy first rest) (followedBy first' rest') := by
  intro outcome same whole
  cases first with
  | error abort => cases same
  | ok one =>
    simp only [Substitution.followedBy, bind, Except.bind] at same
    cases tail : rest one.supply with
    | error abort =>
      rw [tail] at same
      cases same
    | ok others =>
      rw [tail] at same
      cases same
      obtain ⟨here, there⟩ := whole_join_iff.mp whole
      have last : rest' one.supply = .ok others := later one.supply others tail there
      simp only [Substitution.followedBy, bind, Except.bind, own one rfl here, last]
      rfl

end Kept

section Deepening
variable {source : Source} {depth deeper : Nat}

/-- A nested expansion, if there is one, is kept by the other one. -/
def KeptInside (nested nested' : Option (Supply → List String → List Char → Except Abort Outcome)) :
    Prop :=
  ∀ expandValue ∈ nested, ∃ expandValue', nested' = some expandValue' ∧
    ∀ supply holders text, Kept (expandValue supply holders text) (expandValue' supply holders text)

theorem expandPiece_kept
    {nested nested' : Option (Supply → List String → List Char → Except Abort Outcome)}
    (inside : KeptInside nested nested') (holders : List String) (supply : Supply) (piece : Piece) :
    Kept (expandPiece source depth holders nested supply piece)
      (expandPiece source deeper holders nested' supply piece) := by
  cases piece with
  | plain c => exact .refl _
  | token inner =>
    have shallow : expandPiece source depth holders nested supply (.token inner) = _ :=
      expandPiece_met nested supply ⟨holders, 0, inner⟩
    have deep : expandPiece source deeper holders nested' supply (.token inner) = _ :=
      expandPiece_met nested' supply ⟨holders, 0, inner⟩
    rw [shallow, deep]
    split
    · exact .refl _
    split
    · exact .refl _
    split
    · exact .refl _
    cases source (Met.mk holders 0 inner).name with
    | none => exact .refl _
    | some value =>
      dsimp only
      split
      · -- Only here do the expansions part: the shallower one may have no level left.
        cases nested with
        | none =>
          intro outcome same whole
          cases same
          exact absurd whole (not_whole_tooDeep _ _ _ _)
        | some expandValue =>
          obtain ⟨expandValue', available, kept⟩ := inside expandValue rfl
          rw [available]
          exact kept _ _ _
      · exact .refl _

theorem joinAll_kept {step step' : Supply → Piece → Except Abort Outcome}
    (each : ∀ supply piece, Kept (step supply piece) (step' supply piece)) (row : List Piece)
    (supply : Supply) : Kept (joinAll step supply row) (joinAll step' supply row) := by
  induction row generalizing supply with
  | nil => exact .refl _
  | cons piece rest ih =>
    rw [joinAll_cons, joinAll_cons]
    exact (each supply piece).followedBy ih

/-- An expansion that is not cut off comes to the same with more levels. -/
theorem expand_kept {levels more : Nat} (enough : levels ≤ more) (supply : Supply)
    (holders : List String) (text : List Char) :
    Kept (expand source depth levels supply holders text)
      (expand source deeper more supply holders text) := by
  induction levels generalizing more supply holders text with
  | zero =>
    have inside (nested : Option (Supply → List String → List Char → Except Abort Outcome)) :
        KeptInside none nested := by
      intro expandValue member
      cases member
    cases more with
    | zero => exact (joinAll_kept (expandPiece_kept (inside none) holders) _ supply).shown
    | succ more => exact (joinAll_kept (expandPiece_kept (inside _) holders) _ supply).shown
  | succ levels ih =>
    cases more with
    | zero => omega
    | succ more =>
      have inside : KeptInside (some (expand source depth levels)) (some (expand source deeper more)) := by
        rintro expandValue ⟨⟩
        exact ⟨_, rfl, ih (Nat.le_of_succ_le_succ enough)⟩
      exact (joinAll_kept (expandPiece_kept inside holders) _ supply).shown

/-- A substitution that is not cut off comes to the same at every greater depth, whatever the source
and the generated values. -/
theorem run_kept (enough : depth ≤ deeper) (supply : Supply) (text : String) :
    Kept (run source depth supply text) (run source deeper supply text) := by
  unfold run
  split
  · exact expand_kept enough supply [] text.toList
  · exact .refl _

end Deepening

/-- A text without tokens of generated values. -/
def Ordinary (text : List Char) : Prop :=
  ∀ inner, .token inner ∈ pieces (shield text) → (Text.trimChars inner).head? ≠ some '$'

/-- A computation that takes nothing from the supply, and that always has an outcome. -/
def Steady (compute : Supply → Except Abort Outcome) : Prop :=
  ∃ text warnings, ∀ supply, compute supply = .ok ⟨text, warnings, supply⟩

namespace Steady
variable {compute : Supply → Except Abort Outcome}

theorem ok (text : List Char) (warnings : List Warning) :
    Steady fun supply => .ok ⟨text, warnings, supply⟩ :=
  ⟨text, warnings, fun _ => rfl⟩

theorem shown (steady : Steady compute) : Steady fun supply => (compute supply).map Outcome.shown := by
  obtain ⟨text, warnings, result⟩ := steady
  refine ⟨unshield text, warnings, fun supply => ?_⟩
  dsimp only
  rw [result]
  rfl

theorem joinAll {step : Supply → Piece → Except Abort Outcome} {row : List Piece}
    (each : ∀ piece ∈ row, Steady (step · piece)) :
    Steady fun supply => joinAll step supply row := by
  induction row with
  | nil => exact .ok [] []
  | cons piece rest ih =>
    obtain ⟨text, warnings, own⟩ := each piece List.mem_cons_self
    obtain ⟨text', warnings', others⟩ := ih fun other member => each other (List.mem_cons_of_mem _ member)
    refine ⟨text ++ text', warnings ++ warnings', fun supply => ?_⟩
    simp only [joinAll_cons, followedBy, bind, Except.bind, own, others]
    rfl

end Steady

section Steadiness
variable {source : Source} {depth : Nat}

theorem expandPiece_steady {holders : List String} {piece : Piece}
    {nested : Option (Supply → List String → List Char → Except Abort Outcome)}
    (ordinary : ∀ inner, piece = .token inner → (Text.trimChars inner).head? ≠ some '$')
    (inside : ∀ expandValue ∈ nested, ∀ name value, source name = some value →
      ∀ holders, Steady fun supply => expandValue supply holders value.toList) :
    Steady (expandPiece source depth holders nested · piece) := by
  cases piece with
  | plain c => exact .ok [c] []
  | token inner =>
    have cases_ (supply : Supply) :
        expandPiece source depth holders nested supply (.token inner) = _ :=
      expandPiece_met nested supply ⟨holders, 0, inner⟩
    have own : ¬(Met.mk holders 0 inner).Generates := ordinary inner rfl
    simp only [cases_, if_neg own]
    split
    · exact .ok _ []
    split
    · exact .ok _ _
    cases known : source (Met.mk holders 0 inner).name with
    | none => exact .ok _ _
    | some value =>
      dsimp only
      split
      · cases nested with
        | none => exact .ok _ _
        | some expandValue => exact inside expandValue rfl _ value known _
      · exact .ok _ []

theorem expand_steady (values : ∀ name value, source name = some value → Ordinary value.toList)
    (levels : Nat) (holders : List String) {text : List Char} (ordinary : Ordinary text) :
    Steady fun supply => expand source depth levels supply holders text := by
  induction levels generalizing holders text with
  | zero =>
    refine (Steady.joinAll fun piece member => expandPiece_steady ?_ ?_).shown
    · rintro inner rfl
      exact ordinary inner member
    · intro expandValue none_
      cases none_
  | succ levels ih =>
    refine (Steady.joinAll fun piece member => expandPiece_steady ?_ ?_).shown
    · rintro inner rfl
      exact ordinary inner member
    · rintro expandValue ⟨⟩ name value known holders
      exact ih holders (values name value known)

theorem run_steady (values : ∀ name value, source name = some value → Ordinary value.toList)
    {text : String} (ordinary : Ordinary text.toList) :
    Steady fun supply => run source depth supply text := by
  unfold run
  split
  · exact expand_steady values depth [] ordinary
  · exact .ok text.toList []

end Steadiness

/-- The depth of a substitution is a cut-off and nothing more. Without generated values every
substitution has one outcome, whatever the source. If no value was left unexpanded for want of depth,
the text and the warnings are the same at every greater depth. -/
theorem depth_only_cuts_off {source : Source} {text : String} (own : Ordinary text.toList)
    (values : ∀ name value, source name = some value → Ordinary value.toList) (depth : Nat) :
    ∃ reached warnings,
      (∀ supply, run source depth supply text = .ok ⟨reached, warnings, supply⟩) ∧
        ((∀ warning ∈ warnings, ¬warning.IsCut) → ∀ deeper, depth ≤ deeper → ∀ supply,
          run source deeper supply text = .ok ⟨reached, warnings, supply⟩) := by
  have steady : Steady fun supply => run source depth supply text := run_steady values own
  obtain ⟨reached, warnings, result⟩ := steady
  refine ⟨reached, warnings, result, ?_⟩
  intro whole deeper enough supply
  exact run_kept enough supply text _ (result supply) whole

/-- Two names that refer to each other, one of them also to a name without a value. -/
def entangled : Source := fun name =>
  if name = "a" then some "{{b}}|{{b}}" else if name = "b" then some "{{a}}{{c}}" else none

private theorem entangled_text : pieces (shield "{{a}}".toList) = [.token ['a']] := by cbv

private theorem entangled_a :
    pieces (shield "{{b}}|{{b}}".toList) = [.token ['b'], .plain '|', .token ['b']] := by cbv

private theorem entangled_b : pieces (shield "{{a}}{{c}}".toList) = [.token ['a'], .token ['c']] := by
  cbv

private theorem entangled_expands (supply : Supply) : run entangled 2 supply "{{a}}" =
    .ok ⟨"{{a}}{{c}}|{{a}}{{c}}".toList,
      [.circular "a", .undefined "c", .circular "a", .undefined "c"], supply⟩ := by
  have inner (supply : Supply) : expandPiece entangled 2 ["a"] (some (expand entangled 2 0)) supply
      (.token ['b']) = .ok ⟨"{{a}}{{c}}".toList, [.circular "a", .undefined "c"], supply⟩ := by
    change expand entangled 2 0 supply ["b", "a"] "{{a}}{{c}}".toList = _
    rw [expand, entangled_b]
    rfl
  have outer (supply : Supply) : expandPiece entangled 2 [] (some (expand entangled 2 1)) supply
      (.token ['a']) = .ok ⟨"{{a}}{{c}}|{{a}}{{c}}".toList,
        [.circular "a", .undefined "c", .circular "a", .undefined "c"], supply⟩ := by
    change expand entangled 2 1 supply ["a"] "{{b}}|{{b}}".toList = _
    rw [expand, entangled_a]
    simp only [joinAll, inner, expandPiece_plain, bind, Except.bind]
    rfl
  change expand entangled 2 2 supply [] "{{a}}".toList = _
  rw [expand, entangled_text]
  simp only [joinAll, outer, bind, Except.bind]
  rfl

/-- A cycle and an undefined name, both met twice, are settled at the second level. -/
theorem depth_only_cuts_off_cycle :
    (Ordinary "{{a}}".toList ∧
      ∀ name value, entangled name = some value → Ordinary value.toList) ∧
    ∀ deeper, 2 ≤ deeper → ∀ supply, run entangled deeper supply "{{a}}" =
      .ok ⟨"{{a}}{{c}}|{{a}}{{c}}".toList,
        [.circular "a", .undefined "c", .circular "a", .undefined "c"], supply⟩ := by
  have ordinary {text : List Char} {row : List Piece} (cut : pieces (shield text) = row)
      (plain : ∀ inner, .token inner ∈ row → (Text.trimChars inner).head? ≠ some '$') :
      Ordinary text := by
    intro inner member
    rw [cut] at member
    exact plain inner member
  have own : Ordinary "{{a}}".toList := ordinary entangled_text (by simp; decide)
  have values : ∀ name value, entangled name = some value → Ordinary value.toList := by
    intro name value known
    unfold entangled at known
    split at known
    · cases known
      exact ordinary entangled_a (by simp; decide)
    · split at known
      · cases known
        exact ordinary entangled_b (by simp; decide)
      · cases known
  refine ⟨⟨own, values⟩, ?_⟩
  obtain ⟨reached, warnings, result, further⟩ := depth_only_cuts_off own values 2
  have settled := (result ⟨⟨0⟩, 0⟩).symm.trans (entangled_expands ⟨⟨0⟩, 0⟩)
  obtain ⟨rfl, rfl, -⟩ := Outcome.mk.inj (Except.ok.inj settled)
  intro deeper enough supply
  refine further ?_ deeper enough supply
  simp [Warning.IsCut]

end ApiProbe.Substitution
