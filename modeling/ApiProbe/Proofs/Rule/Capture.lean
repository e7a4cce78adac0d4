import ApiProbe.Proofs.Rule.Merging
import ApiProbe.Proofs.Text.Trimming

/-!
The rules of capture directives. A line is only read as a directive if its rule can be used, and the
rule has a new id of its own.
-/
namespace ApiProbe

theorem Text.isBlankText_append (first second : String) :
    isBlankText (first ++ second) = (isBlankText first && isBlankText second) := by
  simp [isBlankText]

/-- What is left of a trimmed text can be seen. -/
theorem Text.not_all_blank_trimChars {chars : List Char} (left : trimChars chars ≠ []) :
    (trimChars chars).all isBlank = false := by
  have last : (trimChars chars).getLast? = some ((trimChars chars).getLast left) :=
    List.getLast?_eq_some_getLast left
  have visible := visible_of_trimRight last
  rw [List.all_eq_false]
  exact ⟨_, List.getLast_mem left, by simp [visible]⟩

namespace Supply

/-- The ids that a supply gives one after the other. -/
def uuids (supply : Supply) : Nat → List String
  | 0 => []
  | count + 1 => supply.uuid.1 :: supply.uuid.2.uuids count

theorem uuid_not_blank (supply : Supply) : Text.isBlankText supply.uuid.1 = false := by
  have dash : Text.isBlankText "-" = false := by decide
  simp [uuid, Text.isBlankText_append, dash]

theorem uuids_not_blank (supply : Supply) (count : Nat) :
    ∀ id ∈ supply.uuids count, Text.isBlankText id = false := by
  induction count generalizing supply with
  | zero => simp [uuids]
  | succ count ih => simpa [uuids, uuid_not_blank] using ih supply.uuid.2

end Supply

namespace Rule

/-- The pattern of a path has no outer blanks. -/
theorem exists_classify_eq (path : List Char) : ∃ chars, (classify path).2 = Text.trimChars chars := by
  unfold classify
  dsimp only
  split
  · exact ⟨_, rfl⟩
  · split
    · exact ⟨_, rfl⟩
    · split
      · exact ⟨_, rfl⟩
      · split <;> exact ⟨_, rfl⟩

theorem isIdentifier_of_assignment? {chars name path : List Char}
    (read : assignment? chars = some (name, path)) : isIdentifier name = true := by
  unfold assignment? at read
  dsimp only at read
  split at read
  · cases read
  · rename_i usable
    split at read
    · split at read
      · cases read
      · cases read
        simp only [Bool.or_eq_true, Bool.not_eq_true', not_or, Bool.not_eq_false] at usable
        exact usable.2
    · cases read

/-- A directive that is read from a line asks for a valid rule. -/
theorem validate_toRule {line : List Char} {directive : Directive}
    (read : directive? line = some directive) (supply : Supply) (scope : Scope) :
    (directive.toRule supply scope).1.validate = .ok () := by
  simp only [directive?, bind, Option.bind_eq_some_iff] at read
  obtain ⟨_, _, _, _, ⟨name, path⟩, assigned, read⟩ := read
  obtain ⟨pattern, trimmed⟩ := exists_classify_eq path
  split at read
  · cases read
  · rename_i left
    cases read
    have named : Text.isBlankText s!"@capture {String.ofList name}" = false := by
      have mark : Text.isBlankText (toString "@capture ") = false := by decide
      simp [Text.isBlankText_append, mark]
    have sought : Text.isBlankText (String.ofList (classify path).2) = false := by
      rw [trimmed] at left ⊢
      rw [Text.isBlankText, String.toList_ofList]
      exact Text.not_all_blank_trimChars (by simpa using left)
    have kept : isIdentifier (String.ofList name).toList = true := by
      rw [String.toList_ofList]
      exact isIdentifier_of_assignment? assigned
    simp only [Directive.toRule, fresh, validate, named, sought, kept]
    rfl

end Rule

namespace RuleBook
variable {supply : Supply} {incoming : List Rule}

/-- The rules of directives have the ids that the supply gives. -/
theorem ids_directiveRules (supply : Supply) (scope : Scope) (directives : List Rule.Directive) :
    ids (directiveRules supply scope directives).1 = supply.uuids directives.length := by
  induction directives generalizing supply with
  | nil => rfl
  | cons directive rest ih => exact congrArg (supply.uuid.1 :: ·) (ih supply.uuid.2)

theorem validate_directiveRules (scope : Scope) (lines : List (List Char)) :
    ∀ rule ∈ (directiveRules supply scope (lines.filterMap Rule.directive?)).1,
      rule.validate = .ok () := by
  induction lines generalizing supply with
  | nil => simp [directiveRules]
  | cons line rest ih =>
    cases read : Rule.directive? line with
    | none => simpa [read] using ih
    | some directive =>
      rw [List.filterMap_cons_some read]
      exact List.forall_mem_cons.mpr ⟨Rule.validate_toRule read supply scope, ih⟩

end RuleBook
end ApiProbe
