import Mathlib.Logic.Basic

/-!
Attempts, which give a value or are refused. A chain of attempts is done exactly if each of them is,
so what holds when it is done is put together from what holds when they are.
-/
namespace ApiProbe.Attempt
variable {δ ε α β : Type}

theorem bind_eq_ok_iff {first : Except ε α} {next : α → Except ε β} {result : β} :
    (first >>= next) = .ok result ↔ ∃ value, first = .ok value ∧ next value = .ok result := by
  cases first <;> simp [bind, Except.bind]

/-- A chain is done if its first link is and so is what comes of its value. -/
theorem exists_bind_iff {first : Except ε α} {next : α → Except ε β} :
    (∃ result, (first >>= next) = .ok result) ↔
      ∃ value, first = .ok value ∧ ∃ result, next value = .ok result := by
  simp only [bind_eq_ok_iff]
  exact ⟨fun ⟨result, value, is, done⟩ => ⟨value, is, result, done⟩,
    fun ⟨value, is, result, done⟩ => ⟨result, value, is, done⟩⟩

theorem exists_pure (value : α) : ∃ result, (pure value : Except ε α) = .ok result := ⟨value, rfl⟩

/-- An attempt whose value does not matter is a test. -/
theorem test_eq_ok_iff {first : Except ε Unit} {next : Except ε β} {result : β} :
    (first >>= fun _ => next) = .ok result ↔ first = .ok () ∧ next = .ok result := by
  cases first <;> simp [bind, Except.bind]

theorem pure_eq_ok_iff {value result : α} : (pure value : Except ε α) = .ok result ↔ value = result :=
  Except.ok.injEq value result ▸ Iff.rfl

@[simp] theorem throw_ne_ok {error : ε} {result : α} : (throw error : Except ε α) ≠ .ok result := by
  simp [throw, throwThe, MonadExceptOf.throw]

theorem map_eq_ok_iff {first : Except ε α} {change : α → β} {result : β} :
    first.map change = .ok result ↔ ∃ value, first = .ok value ∧ change value = result := by
  cases first <;> simp [Except.map]

theorem mapError_eq_ok_iff {first : Except ε α} {change : ε → δ} {result : α} :
    first.mapError change = .ok result ↔ first = .ok result := by
  cases first with
  | error _ => exact ⟨nofun, nofun⟩
  | ok _ => constructor <;> (rintro ⟨⟩; rfl)

theorem exists_error_iff {first : Except ε α} :
    (∃ error, first = .error error) ↔ ∀ value, first ≠ .ok value := by
  cases first <;> simp

end ApiProbe.Attempt
