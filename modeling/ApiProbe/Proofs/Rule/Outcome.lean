import ApiProbe.Proofs.Variable.Masking
import ApiProbe.Rule.Batch
import Mathlib.Data.List.Induction

/-!
A run of rules taken apart. What becomes of a rule is settled by the rule and the response; the store
only takes in the values that were found. So a run settles all its rules first, as far as its report
and its store can tell, and then writes what they found.
-/
namespace ApiProbe.Rule

/-- What becomes of a rule on a response, whatever the store. -/
def outcome (response : Http.Response) (rule : Rule) : Except Abort Applied :=
  match rule.find response with
  | .error (.aborted abort) => .error abort
  | .error (.refused error) => .ok ⟨rule, .error (.extraction error)⟩
  | .ok none => .ok ⟨rule, .error .noMatch⟩
  | .ok (some value) =>
    match Key.check rule.variable_ with
    | .ok _ => .ok ⟨rule, .ok value⟩
    | .error error => .ok ⟨rule, .error (.extraction (.variable_ error))⟩

/-- Only a search that breaks off leaves a rule without an outcome. -/
theorem outcome_eq_error_iff (response : Http.Response) (rule : Rule) (abort : Abort) :
    rule.outcome response = .error abort ↔ rule.find response = .error (.aborted abort) := by
  unfold outcome
  split
  · rename_i found
    simp [found]
  · rename_i found
    simp [found]
  · rename_i found
    simp [found]
  · rename_i found
    split <;> simp [found]

/-- The outcome of a rule is an entry of that rule. -/
theorem outcome_rule {response : Http.Response} {rule : Rule} {entry : Applied}
    (settled : rule.outcome response = .ok entry) : entry.rule = rule := by
  unfold outcome at settled
  split at settled
  · cases settled
  · cases settled
    rfl
  · cases settled
    rfl
  · split at settled <;> cases settled <;> rfl

namespace Applied

/-- The entry among the failures, if it is one. -/
def failed? (entry : Applied) : Option Failed :=
  match entry.result with
  | .ok _ => none
  | .error failure => some ⟨entry.rule, failure⟩

/-- The store with the value of an entry written to the variable of its rule. -/
def keepIn (entry : Applied) (store : Store) : Store :=
  match entry.result with
  | .ok value =>
    let rule := entry.rule
    let old := store.raw? rule.variable_ rule.scope
    store.put (Store.written old rule.variable_ value none rule.scope) .rule
  | .error _ => store

/-- The value that an entry gives a variable. -/
def valueFor? (key : String) (scope : Scope) (entry : Applied) : Option String :=
  if entry.rule.variable_ = key ∧ entry.rule.scope = scope then entry.result.toOption else none

theorem keepIn_of_not_isSuccess {entry : Applied} (failed : entry.isSuccess = false)
    (store : Store) : entry.keepIn store = store := by
  unfold isSuccess at failed
  unfold keepIn
  cases result : entry.result with
  | ok value => simp [result] at failed
  | error failure => rfl

theorem undated_keepIn (entry : Applied) (store : Store) :
    (entry.keepIn store).undated = entry.keepIn store.undated := by
  unfold keepIn
  cases entry.result with
  | ok value => exact Store.undated_put store _ .rule
  | error failure => rfl

/-- An entry with a value for a variable leaves it there to be read. -/
theorem get?_keepIn {entry : Applied} {key value : String} {scope : Scope}
    (given : entry.valueFor? key scope = some value) (store : Store) :
    (entry.keepIn store).get? key (some scope) = some value := by
  unfold valueFor? at given
  split at given
  · rename_i target
    obtain ⟨rfl, rfl⟩ := target
    unfold keepIn
    cases result : entry.result with
    | ok found =>
      obtain rfl : found = value := by simpa [result, Except.toOption] using given
      have present := Store.raw?_put store (Store.written
        (store.raw? entry.rule.variable_ entry.rule.scope) entry.rule.variable_ found none
        entry.rule.scope) .rule
      rw [Store.written_key, Store.written_scope] at present
      simp only [Store.get?, Store.find?, Store.enabled?, present]
      cases store.raw? entry.rule.variable_ entry.rule.scope <;> rfl
    | error failure => simp [result, Except.toOption] at given
  · cases given

/-- An entry without a value for a variable leaves it as it is. -/
theorem raw?_keepIn {entry : Applied} {key : String} {scope : Scope}
    (nothing : entry.valueFor? key scope = none) (store : Store) :
    (entry.keepIn store).raw? key scope = store.raw? key scope := by
  unfold keepIn
  cases result : entry.result with
  | ok value =>
    have elsewhere : ¬(entry.rule.variable_ = key ∧ entry.rule.scope = scope) := by
      intro target
      simp [valueFor?, target, result, Except.toOption] at nothing
    simp only [Store.raw?, Store.table, Store.put, Store.written_key, Store.written_scope]
    by_cases same : scope = entry.rule.scope
    · subst same
      have different : key ≠ entry.rule.variable_ := fun equal => elsewhere ⟨equal.symm, rfl⟩
      rw [PerScope.get_set_self, Table.find?_insert_of_ne _ _ different]
    · rw [PerScope.get_set_of_ne _ _ same]
  | error failure => rfl

end Applied

/-- Running a rule settles it and writes what it found. -/
theorem apply_eq (rule : Rule) (response : Http.Response) (store : Store) :
    rule.apply response store =
      (rule.outcome response).map fun entry => (entry, entry.keepIn store) := by
  unfold apply outcome
  cases rule.find response with
  | error trouble => cases trouble <;> rfl
  | ok found =>
    cases found with
    | none => rfl
    | some value =>
      simp only [Store.write, bind, Except.bind]
      cases Key.check rule.variable_ <;> rfl

/-- The store with the values of entries written to it one after the other. -/
def keepAll (entries : List Applied) (store : Store) : Store :=
  entries.foldl (fun store entry => entry.keepIn store) store

theorem keepAll_append (first second : List Applied) (store : Store) :
    keepAll (first ++ second) store = keepAll second (keepAll first store) :=
  List.foldl_append

theorem undated_keepAll (entries : List Applied) (store : Store) :
    (keepAll entries store).undated = keepAll entries store.undated := by
  induction entries generalizing store with
  | nil => rfl
  | cons entry rest ih =>
    simp only [keepAll, List.foldl_cons] at ih ⊢
    rw [ih, Applied.undated_keepIn]

/-- Failures write nothing, wherever they stand. -/
theorem keepAll_filter_isSuccess (entries : List Applied) (store : Store) :
    keepAll (entries.filter Applied.isSuccess) store = keepAll entries store := by
  induction entries generalizing store with
  | nil => rfl
  | cons entry rest ih =>
    simp only [keepAll, List.foldl_cons, List.filter_cons] at ih ⊢
    cases success : entry.isSuccess with
    | true => exact ih (entry.keepIn store)
    | false =>
      rw [Applied.keepIn_of_not_isSuccess success]
      exact ih store

/-- The value that the last of the entries with one for a variable gives it. -/
def lastValue? (entries : List Applied) (key : String) (scope : Scope) : Option String :=
  entries.reverse.findSome? (Applied.valueFor? key scope)

theorem lastValue?_concat (entries : List Applied) (entry : Applied) (key : String)
    (scope : Scope) : lastValue? (entries ++ [entry]) key scope =
      (entry.valueFor? key scope).or (lastValue? entries key scope) := by
  simp only [lastValue?, List.reverse_append, List.reverse_singleton, List.singleton_append,
    List.findSome?_cons]
  cases entry.valueFor? key scope <;> rfl

theorem raw?_keepAll {entries : List Applied} {key : String} {scope : Scope}
    (nothing : lastValue? entries key scope = none) (store : Store) :
    (keepAll entries store).raw? key scope = store.raw? key scope := by
  induction entries using List.reverseRecOn with
  | nil => rfl
  | append_singleton entries entry ih =>
    rw [lastValue?_concat, Option.or_eq_none_iff] at nothing
    obtain ⟨own, earlier⟩ := nothing
    rw [keepAll_append, ← ih earlier]
    exact Applied.raw?_keepIn own _

/-- The last value that was written is the one to be read. -/
theorem get?_keepAll {entries : List Applied} {key value : String} {scope : Scope}
    (latest : lastValue? entries key scope = some value) (store : Store) :
    (keepAll entries store).get? key (some scope) = some value := by
  induction entries using List.reverseRecOn with
  | nil => simp [lastValue?] at latest
  | append_singleton entries entry ih =>
    rw [lastValue?_concat] at latest
    rw [keepAll_append]
    change (entry.keepIn (keepAll entries store)).get? key (some scope) = some value
    cases own : entry.valueFor? key scope with
    | some last =>
      obtain rfl : last = value := by simpa [own] using latest
      exact Applied.get?_keepIn own _
    | none =>
      have earlier := ih (by simpa [own] using latest)
      simp only [Store.get?, Store.find?, Store.enabled?] at earlier ⊢
      rw [Applied.raw?_keepIn own, earlier]

end ApiProbe.Rule
