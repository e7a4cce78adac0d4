import ApiProbe.Machine.Expectation
import ApiProbe.Proofs.Attempt

/-!
Negated assertions. A check has one verdict on an expectation, whether that is negated or not, so of an
expectation and its negation exactly one passes. A check that cannot be carried out has no verdict; it
fails on both in the same words.
-/
namespace ApiProbe.Machine

/-- The values that a check takes as numbers. -/
def Check.numbers (check : Check) (e : Expectation Value) : List Value :=
  match check with
  | .bound _ limit => [limit, e.subject]
  | .within low high => [low, high, e.subject]
  | _ => []

/-- The pattern that a check looks for. -/
def Check.pattern? : Check → Option String
  | .pattern text => some text
  | _ => none

/-- What it takes to carry out a check: what is taken as a number is one, and a pattern compiles. -/
structure Check.Applies (check : Check) (e : Expectation Value) : Prop where
  numbers : ∀ value ∈ check.numbers e, ∃ number, value.number? = some number
  pattern : ∀ text ∈ check.pattern?, ∃ regex, Regex.compile text = .ok regex

def Check.Passes (check : Check) (e : Expectation Value) : Prop := ∃ next, check.run e = .ok next

section Verdict
variable {check : Check} {e : Expectation Value}

@[simp] theorem Expectation.negate_negate : e.negate.negate = e := by
  simp [Expectation.negate]

/-- Negation has no part in the verdict. -/
@[simp] theorem Check.verdict_negate : check.verdict e.negate = check.verdict e := by
  cases check <;> rfl

theorem boundNumber_eq_ok_iff {limit : Value} {number : Exact} :
    boundNumber limit = .ok number ↔ limit.number? = some number := by
  unfold boundNumber
  cases limit.number? <;> simp

theorem Expectation.number_eq_ok_iff {number : Exact} :
    e.number = .ok number ↔ e.subject.number? = some number := by
  unfold Expectation.number
  cases e.subject.number? <;> simp

theorem Library.compile_eq_ok_iff {pattern : String} {regex : Regex} :
    Library.compile pattern = .ok regex ↔ Regex.compile pattern = .ok regex := by
  unfold Library.compile
  cases Regex.compile pattern <;> simp

/-- A check has a verdict exactly if it can be carried out. -/
theorem Check.exists_verdict_iff : (∃ verdict, check.verdict e = .ok verdict) ↔ check.Applies e := by
  have parts : check.Applies e ↔ (∀ value ∈ check.numbers e, ∃ number, value.number? = some number) ∧
      ∀ text ∈ check.pattern?, ∃ regex, Regex.compile text = .ok regex :=
    ⟨fun applies => ⟨applies.numbers, applies.pattern⟩, fun both => ⟨both.1, both.2⟩⟩
  rw [parts]
  cases check with
  | pattern text =>
    simp only [Check.verdict, Attempt.exists_bind_iff, Attempt.exists_pure, Library.compile_eq_ok_iff]
    simp [Check.numbers, Check.pattern?]
  | bound relation limit =>
    simp only [Check.verdict, Attempt.exists_bind_iff, Attempt.exists_pure, boundNumber_eq_ok_iff,
      Expectation.number_eq_ok_iff]
    simp [Check.numbers, Check.pattern?]
  | within low high =>
    simp only [Check.verdict, Attempt.exists_bind_iff, Attempt.exists_pure, boundNumber_eq_ok_iff,
      Expectation.number_eq_ok_iff]
    simp [Check.numbers, Check.pattern?]
  | _ => simp [Check.verdict, Check.numbers, Check.pattern?]

/-- A check passes if its verdict is the one that the expectation asks for. -/
theorem Check.passes_iff : check.Passes e ↔ check.verdict e = .ok !e.negated := by
  unfold Check.Passes Check.run
  cases check.verdict e with
  | error fault => simp [bind, Except.bind]
  | ok verdict =>
    cases verdict <;> cases e.negated <;>
      simp [bind, Except.bind, pure, Except.pure, throw, throwThe, MonadExceptOf.throw]

theorem Check.passes_negate_iff : check.Passes e.negate ↔ check.verdict e = .ok e.negated := by
  rw [Check.passes_iff, Check.verdict_negate]
  simp [Expectation.negate]

/-- Without a verdict the complaint is the same whether the expectation is negated or not. -/
theorem Check.run_eq_of_verdict_error {fault : Fault} (refused : check.verdict e = .error fault) :
    check.run e = .error fault := by
  simp [Check.run, refused, bind, Except.bind]

end Verdict

/-- Either a check can be carried out, and it passes on exactly one of an expectation and its negation;
or one of its operands is no number or its pattern does not compile, and it fails on both with the same
complaint. An expectation that is negated twice is as it was. -/
theorem negation_exact (check : Check) (e : Expectation Value) :
    (check.Applies e ∧ (check.Passes e ↔ ¬check.Passes e.negate) ∨
      ¬check.Applies e ∧ ∃ fault, check.run e = .error fault ∧ check.run e.negate = .error fault) ∧
    e.negate.negate = e := by
  refine ⟨?_, Expectation.negate_negate⟩
  cases carried : check.verdict e with
  | ok verdict =>
    left
    refine ⟨Check.exists_verdict_iff.mp ⟨verdict, carried⟩, ?_⟩
    rw [Check.passes_iff, Check.passes_negate_iff, carried]
    cases verdict <;> cases e.negated <;> simp
  | error fault =>
    right
    refine ⟨fun applies => ?_, fault, Check.run_eq_of_verdict_error carried,
      Check.run_eq_of_verdict_error (by rw [Check.verdict_negate, carried])⟩
    obtain ⟨verdict, read⟩ := Check.exists_verdict_iff.mpr applies
    rw [carried] at read
    cases read

end ApiProbe.Machine
