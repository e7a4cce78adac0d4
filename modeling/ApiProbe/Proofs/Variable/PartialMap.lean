import ApiProbe.Proofs.Variable.Slots

/-!
What a store shows of its slots and does to them. Whatever has been done to a store, reading it is
reading one partial map: records, values with and without a scope, and the lists of the scopes.
-/
namespace ApiProbe

/-- A slot holds a variable that is switched on and has this value. -/
def Slots.Gives (slots : Slots) (scope : Scope) (key value : String) : Prop :=
  ∃ v, slots scope key = some v ∧ v.enabled = true ∧ v.value = value

namespace Store

/-- The tables of all scopes are in key order. -/
def Ordered (store : Store) : Prop := ∀ scope, (store.table scope).Ordered

theorem Ordered.change {store : Store} (ordered : store.Ordered) {scope : Scope}
    {table : Table Variable} (history : History) (tidy : table.Ordered) :
    { store with scopes := store.scopes.set scope table, history }.Ordered := by
  intro other
  by_cases same : other = scope
  · subst same
    simpa only [Store.table, PerScope.get_set_self] using tidy
  · simpa only [Store.table, PerScope.get_set_of_ne _ _ same] using ordered other

theorem Ordered.put {store : Store} (ordered : store.Ordered) (v : Variable)
    (source : ChangeSource) : (store.put v source).Ordered :=
  ordered.change _ (Table.ordered_insert _ _ (ordered v.scope))

theorem Ordered.perform {store : Store} (ordered : store.Ordered) (operation : StoreOperation) :
    (store.perform operation).Ordered := by
  have write (key value : String) (kind : Option Kind) (scope : Scope) (source : ChangeSource) :
      (store.perform (.setWithSource key value kind scope source)).Ordered := by
    rw [perform_setWithSource]
    cases Key.check key with
    | error _ => exact ordered
    | ok _ => exact ordered.put _ _
  cases operation with
  | set key value scope => exact write key value none scope .manual
  | setWithSource key value kind scope source => exact write key value kind scope source
  | setVariable v source =>
    rw [perform_setVariable]
    cases Key.check v.key with
    | error _ => exact ordered
    | ok _ => exact ordered.put _ _
  | delete key scope =>
    simp only [Store.perform, delete]
    cases store.raw? key scope with
    | none => exact ordered
    | some v => exact ordered.change _ (Table.ordered_erase _ (ordered scope))
  | setEnabled key scope enabled =>
    simp only [Store.perform, setEnabled]
    cases store.raw? key scope with
    | none => exact ordered
    | some v => exact ordered.change store.history (Table.ordered_insert _ _ (ordered scope))
  | clearScope scope => exact ordered.change store.history Table.ordered_nil

theorem ordered_after (limit depth : Nat) (now : Instant) (events : List StoreEvent) :
    ((empty limit depth now).after events).Ordered := by
  have run (store : Store) (ordered : store.Ordered) : (store.after events).Ordered := by
    induction events generalizing store with
    | nil => exact ordered
    | cons event rest ih =>
      have timed : (store.at_ event.time).Ordered := ordered
      exact ih _ (timed.perform event.operation)
  apply run
  intro scope
  simpa only [Store.table, empty, PerScope.get_all] using Table.ordered_nil

theorem enabled?_map_eq_some_iff (store : Store) (scope : Scope) (key value : String) :
    (store.enabled? key scope).map Variable.value = some value ↔
      store.slots.Gives scope key value := by
  simp only [enabled?, Option.map_eq_some_iff, Option.filter_eq_some_iff, Slots.Gives, slots,
    and_assoc]

theorem enabled?_eq_none_iff (store : Store) (scope : Scope) (key : String) :
    store.enabled? key scope = none ↔ ∀ value, ¬store.slots.Gives scope key value := by
  simp only [← enabled?_map_eq_some_iff]
  cases store.enabled? key scope <;> simp

/-- Without a scope a key has the value that the first scope in order of precedence gives it. -/
theorem get?_none_eq_some_iff (store : Store) (key value : String) :
    store.get? key none = some value ↔
      ∃ before scope after, Scope.precedence = before ++ scope :: after ∧
        store.slots.Gives scope key value ∧
        ∀ other ∈ before, ∀ hidden, ¬store.slots.Gives other key hidden := by
  simp only [← enabled?_eq_none_iff]
  simp only [← enabled?_map_eq_some_iff, get?, find?, Option.map_eq_some_iff,
    List.findSome?_eq_some_iff]
  constructor
  · rintro ⟨v, ⟨before, scope, after, split, found, hidden⟩, own⟩
    exact ⟨before, scope, after, split, ⟨v, found, own⟩, hidden⟩
  · rintro ⟨before, scope, after, split, ⟨v, found, own⟩, hidden⟩
    exact ⟨v, ⟨before, scope, after, split, found, hidden⟩, own⟩

/-- A store shows these slots and nothing else. -/
structure Shows (store : Store) (slots : Slots) : Prop where
  /-- Its records are those in the slots, -/
  records : ∀ key scope, store.raw? key scope = slots scope key
  /-- each of them in the slot that it names, under a valid key. -/
  placed : slots.Placed
  /-- A scope gives the value of a record exactly if the record is switched on, -/
  within : ∀ key scope value,
    store.get? key (some scope) = some value ↔ slots.Gives scope key value
  /-- and without a scope the first one with such a record gives it. -/
  anywhere : ∀ key value, store.get? key none = some value ↔
    ∃ before scope after,
      [Scope.request, .collection, .environment, .global] = before ++ scope :: after ∧
      slots.Gives scope key value ∧ ∀ other ∈ before, ∀ hidden, ¬slots.Gives other key hidden
  /-- A list has the records of its scope, switched on or not, in strictly increasing key order, -/
  listed : ∀ scope v, v ∈ store.list scope ↔ ∃ key, slots scope key = some v
  increasing : ∀ scope, (store.list scope).Pairwise fun first second => first.key < second.key
  /-- and the size of the scope is its length. -/
  counted : ∀ scope, store.size scope = (store.list scope).length

/-- What operations do to a store with these slots. -/
structure Follows (store : Store) (slots : Slots) : Prop where
  /-- An operation comes to what it does to the slots, or is refused for the same reason. -/
  effect : ∀ operation, (store.attempt operation).map Store.slots = operation.effect slots
  /-- If it is refused, neither a variable nor the history changes. -/
  refused : ∀ operation error, store.attempt operation = .error error →
    store.perform operation = store
  /-- Else it leaves all slots alone but those that it names. -/
  confined : ∀ operation after, store.attempt operation = .ok after →
    store.perform operation = after ∧
      ∀ scope key, ¬operation.Names scope key → after.raw? key scope = slots scope key
  /-- A value set under a valid key is there to be read. -/
  set : ∀ key value scope, Key.check key = .ok () → ∃ old after,
    store.set key value scope = .ok (old, after) ∧ after.slots.Gives scope key value

theorem placed_slots {store : Store} (placed : store.slots.Placed) (ordered : store.Ordered)
    {scope : Scope} {entry : String × Variable} (member : entry ∈ store.table scope) :
    entry.2.key = entry.1 :=
  (placed scope entry.1 entry.2 ((Table.find?_eq_some_iff (ordered scope)).mpr member)).1

theorem shows_slots {store : Store} (placed : store.slots.Placed) (ordered : store.Ordered) :
    store.Shows store.slots where
  records _ _ := rfl
  placed := placed
  within key scope value := store.enabled?_map_eq_some_iff scope key value
  anywhere key value := store.get?_none_eq_some_iff key value
  listed scope _ := Table.mem_values_iff (ordered scope)
  increasing scope := by
    refine List.pairwise_map.mpr ((ordered scope).imp_of_mem fun {first second} one two less => ?_)
    rw [placed_slots placed ordered one, placed_slots placed ordered two]
    exact less
  counted scope := (List.length_map Prod.snd).symm

theorem gives_set (store : Store) {key : String} (value : String) (scope : Scope)
    (valid : Key.check key = .ok ()) : ∃ old after,
      store.set key value scope = .ok (old, after) ∧ after.slots.Gives scope key value := by
  have written : store.set key value scope = .ok ((store.raw? key scope).map Variable.value,
      store.put (written (store.raw? key scope) key value none scope) .manual) := by
    rw [set, write, valid]
    rfl
  have found := store.raw?_put (Store.written (store.raw? key scope) key value none scope) .manual
  rw [written_key, written_scope] at found
  refine ⟨_, _, written, _, found, ?_⟩
  cases store.raw? key scope <;> exact ⟨rfl, rfl⟩

theorem follows_slots (store : Store) : store.Follows store.slots where
  effect := store.map_slots_attempt
  refused operation error failed := by rw [perform_eq_settle, failed, settle]
  confined operation after done := by
    have same : store.perform operation = after := by rw [perform_eq_settle, done, settle]
    refine ⟨same, fun scope key elsewhere => ?_⟩
    calc after.raw? key scope
      _ = (store.perform operation).slots scope key := by rw [same, slots]
      _ = store.slots scope key := by
        rw [slots_perform, Slots.step_of_not_names _ elsewhere]
  set _ value scope valid := store.gives_set value scope valid

/-- A store is one partial map from scopes and keys to variables: after any sequence of operations it
shows the slots that these operations make of empty ones, and goes on to do to them what the next
operation asks for. -/
theorem behaves_as_slots (limit depth : Nat) (now : Instant) (events : List StoreEvent) :
    let store := (empty limit depth now).after events
    let slots := Slots.empty.after (events.map StoreEvent.operation)
    store.Shows slots ∧ store.Follows slots := by
  intro store slots
  have start : (empty limit depth now).slots = Slots.empty := by
    funext scope key
    simp only [Store.slots, raw?, Store.table, empty, PerScope.get_all]
    rfl
  have same : store.slots = slots := by rw [slots_after, start]
  have placed : store.slots.Placed := same ▸ Slots.placed_after _
  rw [← same]
  exact ⟨shows_slots placed (ordered_after limit depth now events), store.follows_slots⟩

end Store
end ApiProbe
