import ApiProbe.Proofs.Variable.Escapes

/-!
The shortcuts of a substitution. A text without doubled braces is returned at once, and a value
without them is inserted as it is. Neither looks for escaped closing braces, so both give what an
expansion gives if there are none; at once returned texts must not hold stand-ins either.
-/
namespace ApiProbe.Substitution

/-- The value that is inserted in place of a token as it is. -/
def Met.flat? (source : Source) (met : Met) : Option String :=
  (met.value? source).filter fun value => !mayRefer value.toList

/-- A token whose value is the same whether it is inserted or expanded. -/
def Met.Direct (source : Source) (met : Met) : Prop :=
  ∀ value ∈ met.flat? source, ¬EscapesClosing value.toList

/-- Expands one piece, and values that do not refer further like any others. -/
def openPiece (source : Source) (depth : Nat) (visiting : List String)
    (nested : Option (Supply → List String → List Char → Except Abort Outcome))
    (supply : Supply) : Piece → Except Abort Outcome
  | .plain c => .ok ⟨[c], [], supply⟩
  | .token inner =>
    match (Met.mk visiting 0 inner).flat? source with
    | some value => expand source depth 0 supply (nameOf inner :: visiting) value.toList
    | none => expandPiece source depth visiting nested supply (.token inner)

/-- Expands a text without taking shortcuts. -/
def openAll (source : Source) (depth : Nat) :
    Nat → Supply → List String → List Char → Except Abort Outcome
  | 0, supply, visiting, text =>
    (joinAll (openPiece source depth visiting none) supply (pieces (shield text))).map
      Outcome.shown
  | levels + 1, supply, visiting, text =>
    (joinAll (openPiece source depth visiting (some (openAll source depth levels))) supply
      (pieces (shield text))).map Outcome.shown

/-- An outcome with shortcuts and one without. Only their texts can be different, and then the one
without has lost backslashes. -/
structure Leaner (same : Prop) (short long : Outcome) : Prop where
  warnings : long.warnings = short.warnings
  supply : long.supply = short.supply
  alike : same → unshield long.text = unshield short.text
  fewer : long.text.count '\\' ≤ short.text.count '\\'
  lost : ¬same → long.text.count '\\' < short.text.count '\\'

namespace Leaner
variable {same other : Prop} {short long : Outcome}

theorem refl (holds : same) (outcome : Outcome) : Leaner same outcome outcome :=
  ⟨rfl, rfl, fun _ => rfl, Nat.le_refl _, fun fails => absurd holds fails⟩

theorem shown (leaner : Leaner same short long) : Leaner same short.shown long.shown where
  warnings := leaner.warnings
  supply := leaner.supply
  alike holds := congrArg unshield (leaner.alike holds)
  fewer := by simpa only [Outcome.shown, count_unshield] using leaner.fewer
  lost := by simpa only [Outcome.shown, count_unshield] using leaner.lost

theorem join {last last' : Outcome} (own : Leaner same short long)
    (later : Leaner other last last') : Leaner (same ∧ other) (short.join last) (long.join last') where
  warnings := by simp only [Outcome.join, own.warnings, later.warnings]
  supply := later.supply
  alike := by
    rintro ⟨here, there⟩
    simp only [Outcome.join, unshield_append, own.alike here, later.alike there]
  fewer := by
    simp only [Outcome.join, List.count_append]
    exact Nat.add_le_add own.fewer later.fewer
  lost := by
    intro fails
    simp only [Outcome.join, List.count_append]
    by_cases here : same
    · exact Nat.add_lt_add_of_le_of_lt own.fewer (later.lost fun there => fails ⟨here, there⟩)
    · exact Nat.add_lt_add_of_lt_of_le (own.lost here) later.fewer

end Leaner

theorem metIn_append (front back : List Part) : metIn (front ++ back) = metIn front ++ metIn back :=
  List.filterMap_append

theorem metIn_token (met : Met) {holds : Met → Prop} :
    (∀ other ∈ metIn [.token met], holds other) = holds met :=
  propext (List.forall_mem_singleton (p := holds))

section Shortcuts
variable {source : Source} {depth : Nat}

theorem joinAll_leaner {holds : Met → Prop} {opens : Piece → List Part}
    {step step' : Supply → Piece → Except Abort Outcome}
    (each : ∀ supply piece, Matched (Leaner (∀ met ∈ metIn (opens piece), holds met))
      (step supply piece) (step' supply piece)) (supply : Supply) (row : List Piece) :
    Matched (Leaner (∀ met ∈ metIn (row.flatMap opens), holds met)) (joinAll step supply row)
      (joinAll step' supply row) := by
  induction row generalizing supply with
  | nil => exact .refl (Leaner.refl (by simp [metIn])) _
  | cons piece rest ih =>
    rw [joinAll_cons, joinAll_cons, List.flatMap_cons, metIn_append, List.forall_mem_append]
    exact (each supply piece).followedBy (fun leaner => leaner.supply.symm) ih Leaner.join

theorem flat?_eq_some_iff {met : Met} {value : String} : met.flat? source = some value ↔
    met.value? source = some value ∧ mayRefer value.toList = false := by
  simp [Met.flat?, Option.filter_eq_some_iff]

theorem expandPiece_flat {met : Met} {value : String} (inserted : met.flat? source = some value)
    (nested : Option (Supply → List String → List Char → Except Abort Outcome)) (supply : Supply) :
    expandPiece source depth met.holders nested supply (.token met.inner) =
      .ok ⟨value.toList, [], supply⟩ := by
  obtain ⟨known, flat⟩ := flat?_eq_some_iff.mp inserted
  unfold Met.value? at known
  split at known
  · cases known
  · rename_i free
    obtain ⟨visible, ordinary, fresh⟩ := not_or.mp free |>.imp_right not_or.mp
    rw [expandPiece_met, if_neg visible, if_neg ordinary, if_neg fresh, known]
    exact if_neg (Bool.eq_false_iff.mp flat)

/-- A token that is not opened any further. -/
theorem openPiece_leaner (met : Met)
    {nested nested' : Option (Supply → List String → List Char → Except Abort Outcome)}
    {supply : Supply} (same : expandPiece source depth met.holders nested supply (.token met.inner) =
      expandPiece source depth met.holders nested' supply (.token met.inner)) :
    Matched (Leaner (met.Direct source))
      (expandPiece source depth met.holders nested supply (.token met.inner))
      (openPiece source depth met.holders nested' supply (.token met.inner)) := by
  have opened : openPiece source depth met.holders nested' supply (.token met.inner) =
      match met.flat? source with
      | some value => expand source depth 0 supply (met.name :: met.holders) value.toList
      | none => expandPiece source depth met.holders nested' supply (.token met.inner) := rfl
  rw [opened]
  cases inserted : met.flat? source with
  | none =>
    have direct : met.Direct source := by
      intro value member
      rw [inserted] at member
      cases member
    rw [same]
    exact .refl (Leaner.refl direct) _
  | some value =>
    have flat := (flat?_eq_some_iff.mp inserted).2
    have direct : met.Direct source ↔ ¬EscapesClosing value.toList := by
      simp [Met.Direct, inserted]
    rw [expandPiece_flat inserted, direct]
    dsimp only
    rw [expand_flat flat]
    -- Inserted, the value keeps its escapes; expanded, it loses their backslashes.
    refine .done ⟨rfl, rfl, ?_, ?_, ?_⟩
    · intro none_
      rw [shield_of_flat flat none_]
      exact unshield_unshield _
    · have lost := count_shield value.toList
      rw [count_unshield]
      dsimp only
      omega
    · intro escapes
      rw [count_unshield]
      exact count_shield_lt flat (not_not.mp escapes)

/-- The value of an opened token is expanded without shortcuts. -/
theorem openPiece_opened {met : Met} {value : String} (opened : met.opened? source = some value)
    (nested : Supply → List String → List Char → Except Abort Outcome) (supply : Supply) :
    openPiece source depth met.holders (some nested) supply (.token met.inner)
      = nested supply (met.name :: met.holders) value.toList := by
  have refers : met.flat? source = none := by
    obtain ⟨known, refers⟩ := Option.filter_eq_some_iff.mp opened
    simp [Met.flat?, known, refers]
  rw [← expandPiece_opened opened nested supply]
  change (match met.flat? source with | some value => _ | none => _) = _
  rw [refers]

/-- With shortcuts and without, an expansion comes to the same if the values that are inserted do. -/
theorem expand_leaner (levels : Nat) (supply : Supply) (holders : List String) (text : List Char) :
    Matched (Leaner (∀ met ∈ metIn (parts source levels holders text), met.Direct source))
      (expand source depth levels supply holders text)
      (openAll source depth levels supply holders text) := by
  induction levels generalizing supply holders text with
  | zero =>
    rw [expand_eq_map, openAll, parts, List.map_eq_flatMap]
    refine (joinAll_leaner ?_ supply _).map Leaner.shown
    intro supply piece
    cases piece with
    | plain c => exact .refl (Leaner.refl (by simp [metIn, Part.met?])) _
    | token inner =>
      rw [metIn_token]
      exact openPiece_leaner ⟨holders, 0, inner⟩ rfl
  | succ levels ih =>
    rw [expand_eq_map, openAll, parts]
    refine (joinAll_leaner ?_ supply _).map Leaner.shown
    intro supply piece
    cases piece with
    | plain c => exact .refl (Leaner.refl (by simp [metIn, Part.met?])) _
    | token inner =>
      dsimp only
      split
      · rename_i value opened
        -- A value that refers further is no shortcut: the difference lies in the expansions of it.
        rw [expandPiece_opened opened, openPiece_opened opened]
        exact ih ..
      · rename_i unopened
        rw [metIn_token]
        refine openPiece_leaner ⟨holders, levels + 1, inner⟩ ?_
        rw [expandPiece_unopened unopened, expandPiece_unopened unopened]

theorem shown_openAll (levels : Nat) (supply : Supply) (holders : List String) (text : List Char) :
    (openAll source depth levels supply holders text).map Outcome.shown =
      openAll source depth levels supply holders text := by
  cases levels <;> exact map_shown_shown _

end Shortcuts

/-- A text is returned as its expansion would return it if it holds doubled braces, or if there are
neither stand-ins in it nor escaped closing braces. -/
theorem run_eq_expand_iff (source : Source) (depth : Nat) (supply : Supply) (text : String) :
    run source depth supply text = expand source depth depth supply [] text.toList ↔
      mayRefer text.toList = true ∨ (¬EscapesClosing text.toList ∧ Unmarked text.toList) := by
  cases refers : mayRefer text.toList with
  | true => simp [run, refers]
  | false =>
    have returned : run source depth supply text = .ok ⟨text.toList, [], supply⟩ := by
      simp [run, refers]
    rw [returned, expand_flat refers, ← unshield_shield_eq_iff refers]
    constructor
    · intro same
      right
      exact congrArg Outcome.text (Except.ok.inj same).symm
    · rintro (⟨⟨⟩⟩ | same)
      rw [same]

/-- How an expansion with shortcuts compares to one without. -/
theorem expand_eq_openAll_iff (source : Source) (depth levels : Nat) (supply : Supply)
    (holders : List String) (text : List Char) :
    match expand source depth levels supply holders text with
    | .error abort => openAll source depth levels supply holders text = .error abort
    | .ok outcome => openAll source depth levels supply holders text = .ok outcome ↔
        ∀ met ∈ metIn (parts source levels holders text), met.Direct source := by
  have leaner : Matched (Leaner (∀ met ∈ metIn (parts source levels holders text), met.Direct source))
      (expand source depth levels supply holders text)
      (openAll source depth levels supply holders text) :=
    expand_leaner levels supply holders text
  have shown : (openAll source depth levels supply holders text).map Outcome.shown =
      openAll source depth levels supply holders text :=
    shown_openAll levels supply holders text
  have shown' : (expand source depth levels supply holders text).map Outcome.shown =
      expand source depth levels supply holders text := by
    rw [expand_eq_map]
    exact map_shown_shown _
  generalize expand source depth levels supply holders text = short at leaner shown'
  generalize openAll source depth levels supply holders text = long at leaner shown
  cases leaner with
  | broken abort => rfl
  | @done one two leaner =>
    dsimp only
    constructor
    · intro same
      cases same
      by_contra fails
      exact Nat.lt_irrefl _ (leaner.lost fails)
    · intro holds
      have text : two.shown = one.shown := by
        simp only [Outcome.shown, leaner.alike holds, leaner.warnings, leaner.supply]
      rw [← shown, ← shown']
      exact congrArg Except.ok text

/-- The shortcuts of a substitution. A text is returned as its expansion would return it exactly if
doubled braces open in it, or if it holds neither stand-ins nor escaped closing braces. And inserting
values as they are gives what expanding all of them gives exactly if no inserted value holds escaped
closing braces. -/
theorem shortcuts_exact_iff (source : Source) (depth : Nat) (supply : Supply) :
    (∀ text, run source depth supply text = expand source depth depth supply [] text.toList ↔
        mayRefer text.toList = true ∨ (¬EscapesClosing text.toList ∧ Unmarked text.toList)) ∧
      ∀ levels holders text, match expand source depth levels supply holders text with
        | .error abort => openAll source depth levels supply holders text = .error abort
        | .ok outcome => openAll source depth levels supply holders text = .ok outcome ↔
            ∀ met ∈ metIn (parts source levels holders text), met.Direct source := by
  constructor
  · intro text
    exact run_eq_expand_iff source depth supply text
  · intro levels holders text
    exact expand_eq_openAll_iff source depth levels supply holders text

/-- Escaped closing braces keep their backslash in a text without doubled braces, and in a value that
is inserted. -/
theorem shortcuts_exact_iff_closing :
    run (fun _ => none) 5 ⟨⟨0⟩, 0⟩ "\\\x7d\x7d" ≠
        expand (fun _ => none) 5 5 ⟨⟨0⟩, 0⟩ [] "\\\x7d\x7d".toList ∧
      expand (fun _ => some "\\\x7d\x7d") 5 5 ⟨⟨0⟩, 0⟩ [] "{{a}}".toList ≠
        openAll (fun _ => some "\\\x7d\x7d") 5 5 ⟨⟨0⟩, 0⟩ [] "{{a}}".toList := by
  have escapes : EscapesClosing "\\\x7d\x7d".toList := by decide
  constructor
  · intro same
    obtain refers | ⟨none_, -⟩ := ((shortcuts_exact_iff _ 5 _).1 _).mp same
    · exact absurd refers (by decide)
    · exact none_ escapes
  · have row : pieces (shield "{{a}}".toList) = [.token ['a']] := by cbv
    have inserted : Met.flat? (fun _ => some "\\\x7d\x7d") ⟨[], 5, ['a']⟩ = some "\\\x7d\x7d" := by
      decide
    have unopened : Met.opened? (fun _ => some "\\\x7d\x7d") ⟨[], 5, ['a']⟩ = none := by decide
    have met : (⟨[], 5, ['a']⟩ : Met) ∈
        metIn (parts (fun _ => some "\\\x7d\x7d") 5 [] "{{a}}".toList) := by
      have single := tokensMet_single (by decide) row unopened
      rw [tokensMet, textParts, if_pos (by decide)] at single
      rw [single]
      exact List.mem_singleton_self _
    have exact_ := (shortcuts_exact_iff (fun _ => some "\\\x7d\x7d") 5 ⟨⟨0⟩, 0⟩).2 5 [] "{{a}}".toList
    have expanded : expand (fun _ => some "\\\x7d\x7d") 5 5 ⟨⟨0⟩, 0⟩ [] "{{a}}".toList =
        .ok ⟨"\\\x7d\x7d".toList, [], ⟨⟨0⟩, 0⟩⟩ := by
      rw [expand, row]
      rfl
    rw [expanded] at exact_ ⊢
    intro same
    exact exact_.mp same.symm _ met _ inserted escapes

end ApiProbe.Substitution
