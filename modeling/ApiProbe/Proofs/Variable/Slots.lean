import ApiProbe.Proofs.Variable.Operation
import ApiProbe.Proofs.Table.Order

/-!
Stores as one partial map. A scope and a key name a slot, which is empty or holds a variable. An
operation does to the tables of a store what it does to the slots, or it is refused by both; so a
store can be thought of as its slots, however its tables came about.
-/
namespace ApiProbe

/-- What every slot holds. -/
abbrev Slots := Scope → String → Option Variable

namespace Slots

def empty : Slots := fun _ _ => none

/-- Gives one slot another content. -/
def assign (slots : Slots) (scope : Scope) (key : String) (content : Option Variable) : Slots :=
  fun other name => if other = scope ∧ name = key then content else slots other name

/-- Empties all slots of a scope. -/
def clear (slots : Slots) (scope : Scope) : Slots :=
  fun other name => if other = scope then none else slots other name

/-- Every variable is in the slot that it names itself, under a key that can name a variable. -/
def Placed (slots : Slots) : Prop :=
  ∀ scope key v, slots scope key = some v →
    v.key = key ∧ v.scope = scope ∧ Key.check key = .ok ()

end Slots

namespace StoreOperation

/-- What an operation does to the slots, or why it is refused. -/
def effect (slots : Slots) : StoreOperation → Except VariableError Slots
  | .set key value scope => do
    Key.check key
    pure (slots.assign scope key (some (Store.written (slots scope key) key value none scope)))
  | .setWithSource key value kind scope _ => do
    Key.check key
    pure (slots.assign scope key (some (Store.written (slots scope key) key value kind scope)))
  | .setVariable v _ => do
    Key.check v.key
    pure (slots.assign v.scope v.key (some v))
  | .delete key scope => .ok (slots.assign scope key none)
  | .setEnabled key scope enabled =>
    match slots scope key with
    | none => .error (.undefined s!"{scope.name}.{key}")
    | some v => .ok (slots.assign scope key (some { v with enabled }))
  | .clearScope scope => .ok (slots.clear scope)

/-- The slots that an operation is about. -/
def Names : StoreOperation → Scope → String → Prop
  | .set key _ scope, other, name => other = scope ∧ name = key
  | .setWithSource key _ _ scope _, other, name => other = scope ∧ name = key
  | .setVariable v _, other, name => other = v.scope ∧ name = v.key
  | .delete key scope, other, name => other = scope ∧ name = key
  | .setEnabled key scope _, other, name => other = scope ∧ name = key
  | .clearScope scope, other, _ => other = scope

end StoreOperation

namespace Slots

theorem assign_same (slots : Slots) {scope : Scope} {key : String} {content : Option Variable}
    (same : slots scope key = content) : slots.assign scope key content = slots := by
  funext other name
  unfold assign
  split
  · rename_i target
    rw [target.1, target.2, same]
  · rfl

theorem Placed.assign {slots : Slots} (placed : slots.Placed) {scope : Scope} {key : String}
    {content : Option Variable} (fits : ∀ v, content = some v →
      v.key = key ∧ v.scope = scope ∧ Key.check key = .ok ()) :
    (slots.assign scope key content).Placed := by
  intro other name v found
  unfold Slots.assign at found
  split at found
  · rename_i target
    obtain ⟨rfl, rfl⟩ := target
    exact fits v found
  · exact placed other name v found

theorem Placed.clear {slots : Slots} (placed : slots.Placed) (scope : Scope) :
    (slots.clear scope).Placed := by
  intro other name v found
  unfold Slots.clear at found
  split at found
  · cases found
  · exact placed other name v found

/-- The slots after an operation, which are the same if it was refused. -/
def step (slots : Slots) (operation : StoreOperation) : Slots :=
  match operation.effect slots with
  | .ok after => after
  | .error _ => slots

/-- The slots after a sequence of operations. -/
def after (slots : Slots) (operations : List StoreOperation) : Slots := operations.foldl step slots

/-- An operation leaves the slots alone that it does not name. -/
theorem step_of_not_names (slots : Slots) {operation : StoreOperation} {scope : Scope}
    {key : String} (elsewhere : ¬operation.Names scope key) :
    slots.step operation scope key = slots scope key := by
  have checked (name other : String) (target : Scope) (content : Option Variable)
      (apart : ¬(scope = target ∧ key = other)) :
      (match (do Key.check name; pure (slots.assign target other content)) with
        | .ok after => after
        | .error _ => slots) scope key = slots scope key := by
    cases Key.check name with
    | error _ => rfl
    | ok _ => exact if_neg apart
  cases operation with
  | set name value target => exact checked name name target _ elsewhere
  | setWithSource name value kind target source => exact checked name name target _ elsewhere
  | setVariable v source => exact checked v.key v.key v.scope _ elsewhere
  | delete name target => exact if_neg elsewhere
  | setEnabled name target enabled =>
    simp only [step, StoreOperation.effect]
    cases slots target name with
    | none => rfl
    | some v => exact if_neg elsewhere
  | clearScope target => exact if_neg elsewhere

theorem Placed.step {slots : Slots} (placed : slots.Placed) (operation : StoreOperation) :
    (slots.step operation).Placed := by
  have checked (name key : String) (scope : Scope) (v : Variable) (same : name = key)
      (own : v.key = key ∧ v.scope = scope) :
      Placed (match (do Key.check name; pure (slots.assign scope key (some v))) with
        | .ok after => after
        | .error _ => slots) := by
    subst same
    cases valid : Key.check name with
    | error _ => exact placed
    | ok _ =>
      apply placed.assign
      rintro other ⟨⟩
      exact ⟨own.1, own.2, valid⟩
  cases operation with
  | set key value scope =>
    exact checked key key scope _ rfl ⟨Store.written_key .., Store.written_scope ..⟩
  | setWithSource key value kind scope source =>
    exact checked key key scope _ rfl ⟨Store.written_key .., Store.written_scope ..⟩
  | setVariable v source => exact checked v.key v.key v.scope v rfl ⟨rfl, rfl⟩
  | delete key scope => exact placed.assign fun v found => by cases found
  | setEnabled key scope enabled =>
    simp only [Slots.step, StoreOperation.effect]
    cases found : slots scope key with
    | none => exact placed
    | some v =>
      apply placed.assign
      rintro other ⟨⟩
      exact placed scope key v found
  | clearScope scope => exact placed.clear scope

theorem placed_after (operations : List StoreOperation) : (empty.after operations).Placed := by
  have run (slots : Slots) (placed : slots.Placed) : (slots.after operations).Placed := by
    induction operations generalizing slots with
    | nil => exact placed
    | cons operation rest ih => exact ih _ (placed.step operation)
  exact run empty fun scope key v found => by cases found

end Slots

namespace Store

/-- What comes of an operation: the store after it, or the reason why it is refused. -/
def attempt (store : Store) : StoreOperation → Except VariableError Store
  | .set key value scope => (store.set key value scope).map Prod.snd
  | .setWithSource key value kind scope source =>
    (store.write key value kind scope source).map Prod.snd
  | .setVariable v source => store.setVariable v source
  | .delete key scope => .ok (store.delete key scope).2
  | .setEnabled key scope enabled => store.setEnabled key scope enabled
  | .clearScope scope => .ok (store.clearScope scope)

theorem perform_eq_settle (store : Store) (operation : StoreOperation) :
    store.perform operation = store.settle (store.attempt operation) := by
  cases operation <;> rfl

/-- The slots of a store. -/
def slots (store : Store) : Slots := fun scope key => store.raw? key scope

/-- A table put in place of that of a scope changes the slots of that scope alone. -/
theorem slots_change (store : Store) (scope : Scope) (table : Table Variable) (history : History)
    (other : Scope) (key : String) :
    { store with scopes := store.scopes.set scope table, history }.slots other key =
      if other = scope then table.find? key else store.slots other key := by
  split
  · rename_i same
    subst same
    simp only [slots, raw?, Store.table, PerScope.get_set_self]
  · rename_i different
    simp only [slots, raw?, Store.table, PerScope.get_set_of_ne _ _ different]

/-- A table that differs at one key alone makes one slot differ. -/
theorem slots_replace (store : Store) {scope : Scope} {key : String} {table : Table Variable}
    {content : Option Variable} (history : History) (own : table.find? key = content)
    (others : ∀ name, name ≠ key → table.find? name = (store.table scope).find? name) :
    { store with scopes := store.scopes.set scope table, history }.slots =
      store.slots.assign scope key content := by
  funext other name
  rw [slots_change, Slots.assign]
  by_cases inside : other = scope
  · subst inside
    by_cases same : name = key
    · rw [if_pos rfl, if_pos ⟨rfl, same⟩, same, own]
    · rw [if_pos rfl, if_neg fun target => same target.2, others name same]
      rfl
  · rw [if_neg inside, if_neg fun target => inside target.1]

theorem slots_insert (store : Store) (scope : Scope) (key : String) (v : Variable)
    (history : History) :
    { store with
      scopes := store.scopes.set scope ((store.table scope).insert key v), history }.slots =
      store.slots.assign scope key (some v) :=
  store.slots_replace history (Table.find?_insert_self ..)
    fun _ different => Table.find?_insert_of_ne _ _ different

theorem slots_erase (store : Store) (scope : Scope) (key : String) (history : History) :
    { store with
      scopes := store.scopes.set scope ((store.table scope).erase key), history }.slots =
      store.slots.assign scope key none :=
  store.slots_replace history (Table.find?_erase_self ..)
    fun _ different => Table.find?_erase_of_ne _ different

theorem slots_delete (store : Store) (key : String) (scope : Scope) :
    (store.delete key scope).2.slots = store.slots.assign scope key none := by
  unfold delete
  split
  · rename_i nothing
    exact (store.slots.assign_same nothing).symm
  · exact store.slots_erase scope key _

theorem slots_clearScope (store : Store) (scope : Scope) :
    (store.clearScope scope).slots = store.slots.clear scope := by
  funext other name
  rw [clearScope, slots_change store scope [] store.history]
  rfl

/-- An operation does to a store what it does to its slots, or is refused for the same reason. -/
theorem map_slots_attempt (store : Store) (operation : StoreOperation) :
    (store.attempt operation).map slots = operation.effect store.slots := by
  have write (key value : String) (kind : Option Kind) (scope : Scope) (source : ChangeSource) :
      ((store.write key value kind scope source).map Prod.snd).map slots =
        (StoreOperation.setWithSource key value kind scope source).effect store.slots := by
    simp only [Store.write, StoreOperation.effect, bind, Except.bind]
    cases Key.check key with
    | error error => rfl
    | ok _ =>
      have put := store.slots_insert scope key (written (store.raw? key scope) key value kind scope)
      simp only [pure, Except.pure, Except.map, Store.put, written_key, written_scope]
      rw [put]
      rfl
  cases operation with
  | set key value scope => exact write key value none scope .manual
  | setWithSource key value kind scope source => exact write key value kind scope source
  | setVariable v source =>
    simp only [attempt, setVariable, StoreOperation.effect, bind, Except.bind]
    cases Key.check v.key with
    | error error => rfl
    | ok _ => exact congrArg Except.ok (store.slots_insert v.scope v.key v _)
  | delete key scope => exact congrArg Except.ok (store.slots_delete key scope)
  | setEnabled key scope enabled =>
    simp only [attempt, setEnabled, StoreOperation.effect]
    cases found : store.raw? key scope with
    | none =>
      have absent : store.slots scope key = none := found
      rw [absent]
      rfl
    | some v =>
      have present : store.slots scope key = some v := found
      rw [present]
      exact congrArg Except.ok (store.slots_insert scope key _ store.history)
  | clearScope scope => exact congrArg Except.ok (store.slots_clearScope scope)

theorem slots_perform (store : Store) (operation : StoreOperation) :
    (store.perform operation).slots = store.slots.step operation := by
  rw [perform_eq_settle, Slots.step, ← map_slots_attempt]
  cases store.attempt operation <;> rfl

/-- A run does to a store what its operations do to the slots, at whatever times they come. -/
theorem slots_after (store : Store) (events : List StoreEvent) :
    (store.after events).slots = store.slots.after (events.map StoreEvent.operation) := by
  induction events generalizing store with
  | nil => rfl
  | cons event rest ih =>
    calc (store.after (event :: rest)).slots
      _ = (store.step event).slots.after (rest.map StoreEvent.operation) := ih _
      _ = store.slots.after ((event :: rest).map StoreEvent.operation) := by
        rw [step, slots_perform]
        rfl

end Store
end ApiProbe
