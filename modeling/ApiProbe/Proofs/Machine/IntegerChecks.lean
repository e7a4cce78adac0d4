import ApiProbe.Proofs.Decimal.Nearest
import ApiProbe.Proofs.Machine.Negation
import Mathlib.Algebra.Group.Int.Defs

/-!
Assertions about integers. They compare integers as floating-point numbers, so they compare the numbers
nearest to them. Rounding keeps the order of integers, but it can bring different ones together; what an
assertion says is true of the integers themselves unless it has brought together two whose difference
matters to it.
-/
namespace ApiProbe.Machine
open Exact (nearest nearest_mono nearest_of_small)

/-- A relation of integers. -/
def Relation.Relates (relation : Relation) (a b : Int) : Prop :=
  match relation with
  | .above => b < a
  | .below => a < b
  | .least => b ≤ a
  | .most => a ≤ b

/-- Whether a relation holds or fails because of the difference of two integers. -/
def Relation.Separates (relation : Relation) (a b : Int) : Prop :=
  match relation with
  | .above | .most => b < a
  | .below | .least => a < b

/-- A check of an integer against other integers. -/
inductive IntegerCheck
  | equal (expected : Int) (binding : Option String)
  | bound (relation : Relation) (limit : Int)
  | within (low high : Int)
  | oneOf (options : List Int)

namespace IntegerCheck

def toCheck : IntegerCheck → Check
  | equal expected binding => .equal (.int expected) binding
  | bound relation limit => .bound relation (.int limit)
  | within low high => .within (.int low) (.int high)
  | oneOf options => .oneOf (options.map .int)

/-- The integers that a check compares with. -/
def operands : IntegerCheck → List Int
  | equal expected _ => [expected]
  | bound _ limit => [limit]
  | within low high => [low, high]
  | oneOf options => options

/-- What a check says of an integer if every integer is seen as `view` shows it. -/
def Holds (view : Int → Int) (n : Int) : IntegerCheck → Prop
  | equal expected _ => view n = view expected
  | bound relation limit => relation.Relates (view n) (view limit)
  | within low high => view low ≤ view n ∧ view n ≤ view high
  | oneOf options => ∃ option ∈ options, view n = view option

/-- Rounding brings an integer together with one from which the check should tell it apart. -/
def Blurs (n : Int) : IntegerCheck → Prop
  | equal expected _ => nearest n = nearest expected ∧ n ≠ expected
  | bound relation limit => nearest n = nearest limit ∧ relation.Separates n limit
  | within low high =>
    nearest n = nearest low ∧ nearest n ≤ nearest high ∧ n < low ∨
      nearest n = nearest high ∧ nearest low ≤ nearest n ∧ high < n
  | oneOf options => (∃ option ∈ options, nearest n = nearest option) ∧ n ∉ options

end IntegerCheck

section Comparison
variable {a b : Int}

/-- Integers are equal as values if the numbers nearest to them are. -/
theorem strictEqual_int_iff :
    (Value.int a).strictEqual (.int b) = true ↔ nearest a = nearest b := by
  change ((Exact.ofInt a).compare? (Exact.ofInt b) == some .eq) = true ↔ _
  rw [Exact.compare?_ofInt, beq_iff_eq, Option.some.injEq, Int.compare_eq_eq]

theorem between_ofInt_iff {relation : Relation} :
    relation.between (.ofInt a) (.ofInt b) = true ↔ relation.Relates (nearest a) (nearest b) := by
  unfold Relation.between
  rw [Exact.compare?_ofInt]
  dsimp only
  cases relation with
  | above => rw [Relation.holds, beq_iff_eq, Int.compare_eq_gt, Relation.Relates]
  | below => rw [Relation.holds, beq_iff_eq, Int.compare_eq_lt, Relation.Relates]
  | least => rw [Relation.holds, bne_iff_ne, ne_eq, Int.compare_eq_lt, Relation.Relates, Int.not_lt]
  | most => rw [Relation.holds, bne_iff_ne, ne_eq, Int.compare_eq_gt, Relation.Relates, Int.not_lt]

/-- Rounded integers are related as the integers are, unless rounding takes their difference away. -/
theorem relates_nearest_iff (relation : Relation) (a b : Int) :
    (relation.Relates (nearest a) (nearest b) ↔ relation.Relates a b) ↔
      ¬(nearest a = nearest b ∧ relation.Separates a b) := by
  have forward : a ≤ b → nearest a ≤ nearest b := nearest_mono
  have backward : b ≤ a → nearest b ≤ nearest a := nearest_mono
  cases relation <;> simp only [Relation.Relates, Relation.Separates] <;> omega

end Comparison

namespace IntegerCheck

/-- A check of an integer is about the floating-point numbers nearest to the integers. -/
theorem passes_iff_holds_nearest (check : IntegerCheck) (n : Int) (binding : Option String) :
    check.toCheck.Passes ⟨.int n, binding, false, false⟩ ↔ check.Holds nearest n := by
  rw [Check.passes_iff]
  cases check with
  | equal expected name =>
    change Except.ok (name.isSome && binding == name && false ||
      (Value.int n).strictEqual (.int expected)) = .ok true ↔ _
    rw [Except.ok.injEq, Bool.and_false, Bool.false_or, strictEqual_int_iff, Holds]
  | bound relation limit =>
    change Except.ok (relation.between (.ofInt n) (.ofInt limit)) = .ok true ↔ _
    rw [Except.ok.injEq, between_ofInt_iff, Holds]
  | within low high =>
    change Except.ok (Relation.least.between (.ofInt n) (.ofInt low) &&
      Relation.most.between (.ofInt n) (.ofInt high)) = .ok true ↔ _
    rw [Except.ok.injEq, Bool.and_eq_true, between_ofInt_iff, between_ofInt_iff]
    exact Iff.rfl
  | oneOf options =>
    change Except.ok ((options.map Value.int).any fun option =>
      (Value.int n).strictEqual option) = .ok true ↔ _
    rw [Except.ok.injEq, List.any_map, List.any_eq_true]
    simp only [Function.comp_apply, strictEqual_int_iff, Holds]

/-- A statement and a stronger one come to the same unless only the weaker one is true. -/
theorem same_iff_not_only {weak strong : Prop} (weaken : strong → weak) :
    (weak ↔ strong) ↔ ¬(weak ∧ ¬strong) := by
  rw [not_and_not_right]
  exact ⟨Iff.mp, fun keeps => ⟨keeps, weaken⟩⟩

/-- The rounded integers say the same as the integers themselves unless the check is blurred. -/
theorem holds_nearest_iff (check : IntegerCheck) (n : Int) :
    (check.Holds nearest n ↔ check.Holds id n) ↔ ¬check.Blurs n := by
  cases check with
  | equal expected name => exact same_iff_not_only (congrArg nearest)
  | bound relation limit => exact relates_nearest_iff relation n limit
  | within low high =>
    have aboveLow : low ≤ n → nearest low ≤ nearest n := nearest_mono
    have belowLow : n ≤ low → nearest n ≤ nearest low := nearest_mono
    have aboveHigh : high ≤ n → nearest high ≤ nearest n := nearest_mono
    have belowHigh : n ≤ high → nearest n ≤ nearest high := nearest_mono
    simp only [Holds, Blurs, id]
    omega
  | oneOf options =>
    simp only [Holds, Blurs, id, exists_eq_right']
    exact same_iff_not_only fun inside => ⟨n, inside, rfl⟩

/-- Integers of up to 53 bits are not rounded. -/
theorem not_blurs_of_small {check : IntegerCheck} {n : Int} (small : n.natAbs ≤ 2 ^ 53)
    (others : ∀ m ∈ check.operands, m.natAbs ≤ 2 ^ 53) : ¬check.Blurs n := by
  rw [← holds_nearest_iff]
  have own := nearest_of_small small
  cases check with
  | equal expected name =>
    have second := nearest_of_small (others expected List.mem_cons_self)
    simp only [Holds, id, own, second]
  | bound relation limit =>
    have second := nearest_of_small (others limit List.mem_cons_self)
    simp only [Holds, id, own, second]
  | within low high =>
    have first := nearest_of_small (others low List.mem_cons_self)
    have last := nearest_of_small (others high (.tail _ List.mem_cons_self))
    simp only [Holds, id, own, first, last]
  | oneOf options =>
    simp only [Holds, id, own]
    constructor
    · rintro ⟨option, inside, same⟩
      exact ⟨option, inside, same.trans (nearest_of_small (others option inside))⟩
    · rintro ⟨option, inside, same⟩
      exact ⟨option, inside, same.trans (nearest_of_small (others option inside)).symm⟩

/-- A check of an integer passes if what it says is true of the numbers nearest to the integers. This is
what it says of the integers themselves unless rounding brings two of them together whose difference
matters, and up to `2 ^ 53` it does not. -/
theorem integers_told_apart_iff (check : IntegerCheck) (n : Int) (binding : Option String) :
    let passes := check.toCheck.Passes ⟨.int n, binding, false, false⟩
    (passes ↔ check.Holds nearest n) ∧ ((passes ↔ check.Holds id n) ↔ ¬check.Blurs n) ∧
      (n.natAbs ≤ 2 ^ 53 → (∀ m ∈ check.operands, m.natAbs ≤ 2 ^ 53) → (passes ↔ check.Holds id n)) := by
  intro passes
  have rounded := passes_iff_holds_nearest check n binding
  have same : (passes ↔ check.Holds id n) ↔ ¬check.Blurs n := by
    rw [← holds_nearest_iff]
    exact iff_congr rounded Iff.rfl
  exact ⟨rounded, same, fun small others => same.mpr (not_blurs_of_small small others)⟩

/-- The integer behind `2 ^ 53` equals `2 ^ 53` and is not above it, but `2 ^ 53` and the integer in front
of it are told apart. -/
theorem integers_told_apart_iff_large :
    (Check.equal (.int (2 ^ 53)) none).Passes (.of (.int (2 ^ 53 + 1))) ∧
      ¬(Check.bound .above (.int (2 ^ 53))).Passes (.of (.int (2 ^ 53 + 1))) ∧
      ((2 : Int) ^ 53).natAbs ≤ 2 ^ 53 ∧
      (∀ m ∈ (equal (2 ^ 53 - 1) none).operands, m.natAbs ≤ 2 ^ 53) ∧
      ¬(Check.equal (.int (2 ^ 53 - 1)) none).Passes (.of (.int (2 ^ 53))) := by
  have first : (2 ^ 53 : Int).natAbs ≤ 2 ^ 53 := by decide
  have others : ∀ m ∈ (equal (2 ^ 53 - 1) none).operands, m.natAbs ≤ 2 ^ 53 := by decide
  have alike : nearest (2 ^ 53 + 1) = nearest (2 ^ 53) := by decide +kernel
  refine ⟨?_, ?_, first, others, ?_⟩
  · exact (integers_told_apart_iff (equal (2 ^ 53) none) (2 ^ 53 + 1) none).1.mpr alike
  · intro passes
    have above := (integers_told_apart_iff (bound .above (2 ^ 53)) (2 ^ 53 + 1) none).1.mp passes
    exact absurd alike (Int.ne_of_gt above)
  · intro passes
    have same := (integers_told_apart_iff (equal (2 ^ 53 - 1) none) (2 ^ 53) none).2.2 first others
    exact absurd (same.mp passes) (show (2 ^ 53 : Int) ≠ 2 ^ 53 - 1 by decide)

end IntegerCheck
end ApiProbe.Machine
