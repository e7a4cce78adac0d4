import ApiProbe.Proofs.Variable.Operation

/-!
What the history and the exports of a store can tell about its secrets: nothing. A veil takes from a
store what they do not show, which is the values of secrets and all times. Every operation does to
the veiled store what it does to the store itself, and what can be seen is seen through the veil.
-/
namespace ApiProbe

theorem Kind.infer_ne_secret (value : String) : Kind.infer value ≠ .secret := by
  unfold Kind.infer
  extract_lets chars text
  split
  · simp
  · split
    · split <;> simp
    · simp

namespace Variable

@[simp] theorem masked_isSecret (v : Variable) : v.masked.isSecret = v.isSecret := rfl

@[simp] theorem masked_display (v : Variable) : v.masked.display = v.display := by
  cases secret : v.isSecret <;> simp [display, secret, masked]

/-- Of a secret the mask leaves everything but the value. -/
theorem masked_withValue {v : Variable} (secret : v.isSecret = true) (value : String) :
    { v with value }.masked = v.masked := by
  have other : ({ v with value } : Variable).isSecret = true := secret
  simp [masked, display, secret, other]

end Variable

namespace PerScope
variable {α β : Type}

def map (f : α → β) (values : PerScope α) : PerScope β :=
  ⟨f values.global, f values.environment, f values.collection, f values.request⟩

theorem get_map (f : α → β) (values : PerScope α) (scope : Scope) :
    (values.map f).get scope = f (values.get scope) := by
  cases scope <;> rfl

theorem map_set (f : α → β) (values : PerScope α) (scope : Scope) (value : α) :
    (values.set scope value).map f = (values.map f).set scope (f value) := by
  cases scope <;> rfl

end PerScope

/-- A change without its time. -/
def Change.undated (change : Change) : Change := { change with time := ⟨0⟩ }

namespace History

/-- The history without any times. -/
def undated (history : History) : History :=
  { history with trails := history.trails.mapValues (List.map Change.undated), now := ⟨0⟩ }

theorem trail_undated (history : History) (name : String) :
    history.undated.trail name = (history.trail name).map Change.undated := by
  simp only [trail, undated, Table.find?_mapValues]
  cases history.trails.find? name <;> rfl

theorem undated_record (history : History) (name : String) (old new : Option String)
    (scope : Scope) (source : ChangeSource) :
    (history.record name old new scope source).undated =
      history.undated.record name old new scope source := by
  simp only [record, trail_undated]
  simp only [undated, Table.mapValues_insert, List.map_take, List.map_cons]
  rfl

theorem everything_undated (history : History) :
    history.undated.everything = history.everything.map Change.undated := by
  have values : history.undated.trails.values.flatten =
      history.trails.values.flatten.map Change.undated := by
    simp only [undated, Table.values, Table.mapValues, List.map_map, List.map_flatten]
    rfl
  rw [everything, values, everything, List.map_mergeSort (s := newerFirst)]
  intro a _ b _
  rfl

theorem entries_undated (history : History) (name : Option String) (limit : Option Nat) :
    history.undated.entries name limit = (history.entries name limit).map Change.undated := by
  cases name <;> cases limit <;>
    simp [entries, truncate, trail_undated, everything_undated, List.map_take]

end History

namespace Store

/-- What the history and the exports show of a store: no values of secrets and no times. -/
def veil (store : Store) : Store :=
  { store with
    scopes := store.scopes.map (Table.mapValues Variable.masked)
    history := store.history.undated }

theorem table_veil (store : Store) (scope : Scope) :
    store.veil.table scope = (store.table scope).mapValues Variable.masked :=
  PerScope.get_map ..

theorem raw?_veil (store : Store) (key : String) (scope : Scope) :
    store.veil.raw? key scope = (store.raw? key scope).map Variable.masked := by
  rw [raw?, table_veil, Table.find?_mapValues, raw?]

/-- A table and a history put into a store are seen through the veil. -/
theorem veil_change (store : Store) (scope : Scope) (table : Table Variable) (history : History) :
    { store with scopes := store.scopes.set scope table, history }.veil =
      { store.veil with
        scopes := store.veil.scopes.set scope (table.mapValues Variable.masked)
        history := history.undated } := by
  simp only [veil, PerScope.map_set]

theorem veil_put (store : Store) (v : Variable) (source : ChangeSource) :
    (store.put v source).veil = store.veil.put v.masked source := by
  have old : (store.veil.raw? v.key v.scope).map (oldDisplay v.masked) =
      (store.raw? v.key v.scope).map (oldDisplay v) := by
    rw [raw?_veil, Option.map_map]
    congr 1
    funext before
    simp [oldDisplay]
  calc (store.put v source).veil
    _ = { store.veil with
          scopes := store.veil.scopes.set v.scope
            ((store.veil.table v.scope).insert v.key v.masked)
          history := store.veil.history.record v.key
            ((store.raw? v.key v.scope).map (oldDisplay v)) (some v.display) v.scope source } := by
      rw [put, veil_change, Table.mapValues_insert, History.undated_record, table_veil]
      rfl
    _ = store.veil.put v.masked source := by
      rw [← old, ← Variable.masked_display]
      rfl

theorem veil_delete (store : Store) (key : String) (scope : Scope) :
    (store.delete key scope).2.veil = (store.veil.delete key scope).2 := by
  simp only [delete, raw?_veil]
  cases store.raw? key scope with
  | none => rfl
  | some v =>
    simp only [Option.map_some, veil_change, Table.mapValues_erase, History.undated_record,
      table_veil, Variable.masked_display]
    rfl

theorem veil_setEnabled (store : Store) (key : String) (scope : Scope) (enabled : Bool) :
    (store.perform (.setEnabled key scope enabled)).veil =
      store.veil.perform (.setEnabled key scope enabled) := by
  simp only [perform, setEnabled, raw?_veil]
  cases store.raw? key scope with
  | none => rfl
  | some v =>
    simp only [Option.map_some, settle, table_veil]
    rw [veil_change store scope _ store.history, Table.mapValues_insert]
    rfl

theorem veil_clearScope (store : Store) (scope : Scope) :
    (store.clearScope scope).veil = store.veil.clearScope scope :=
  veil_change store scope [] store.history

theorem written_masked (old : Option Variable) (key value : String) (kind : Option Kind)
    (scope : Scope) :
    written (old.map Variable.masked) key value kind scope = written old key value kind scope := by
  cases old <;> rfl

/-- A value does not make a variable secret: it was one before, or it is asked to be one. -/
theorem written_isSecret_cases {old : Option Variable} {key value : String} {kind : Option Kind}
    {scope : Scope} (secret : (written old key value kind scope).isSecret = true) :
    (∃ v, old = some v ∧ v.isSecret = true) ∨ kind = some .secret := by
  have asked (plain : kind.getD (Kind.infer value) = .secret) : kind = some .secret := by
    cases kind with
    | none =>
      rw [Option.getD_none] at plain
      exact absurd plain (Kind.infer_ne_secret value)
    | some kind => rw [← plain, Option.getD_some]
  cases old with
  | none => exact .inr (asked (by simpa [written, Variable.isSecret] using secret))
  | some v =>
    cases before : v.isSecret with
    | true => exact .inl ⟨v, rfl, before⟩
    | false =>
      simp only [Variable.isSecret] at before
      exact .inr (asked (by simpa [written, Variable.isSecret, before] using secret))

/-- A write that leaves a secret behind shows nothing of its value. -/
theorem masked_written {old : Option Variable} {key value : String} {kind : Option Kind}
    {scope : Scope} (secret : (written old key value kind scope).isSecret = true) (other : String) :
    (written old key other kind scope).masked = (written old key value kind scope).masked := by
  have same : written old key other kind scope =
      { written old key value kind scope with value := other } := by
    rcases written_isSecret_cases secret with ⟨v, rfl, before⟩ | rfl
    · simp [written, before]
    · cases old <;> simp [written]
  rw [same, Variable.masked_withValue secret]

/-- Stores that look the same look the same after any operation. -/
theorem veil_perform_congr (first second : Store) (alike : first.veil = second.veil)
    (operation : StoreOperation) :
    (first.perform operation).veil = (second.perform operation).veil := by
  have write (key value : String) (kind : Option Kind) (scope : Scope) (source : ChangeSource) :
      (first.perform (.setWithSource key value kind scope source)).veil =
        (second.perform (.setWithSource key value kind scope source)).veil := by
    have old : (first.raw? key scope).map Variable.masked =
        (second.raw? key scope).map Variable.masked := by
      rw [← raw?_veil, ← raw?_veil, alike]
    have result : written (first.raw? key scope) key value kind scope =
        written (second.raw? key scope) key value kind scope := by
      rw [← written_masked, old, written_masked]
    simp only [perform_setWithSource]
    cases Key.check key with
    | error _ => exact alike
    | ok _ => simp only [veil_put, alike, result]
  cases operation with
  | set key value scope => exact write key value none scope .manual
  | setWithSource key value kind scope source => exact write key value kind scope source
  | setVariable v source =>
    simp only [perform_setVariable]
    cases Key.check v.key with
    | error _ => exact alike
    | ok _ => simp only [veil_put, alike]
  | delete key scope => simp only [perform, veil_delete, alike]
  | setEnabled key scope enabled => simp only [veil_setEnabled, alike]
  | clearScope scope => simp only [perform, veil_clearScope, alike]

end Store

namespace StoreOperation

/-- Where an operation that is given a value writes it. -/
def slot? : StoreOperation → Option (String × Scope)
  | .set key _ scope | .setWithSource key _ _ scope _ => some (key, scope)
  | .setVariable v _ => some (v.key, v.scope)
  | .delete .. | .setEnabled .. | .clearScope .. => none

/-- The operation with another value to write. -/
def withValue (value : String) : StoreOperation → StoreOperation
  | .set key _ scope => .set key value scope
  | .setWithSource key _ kind scope source => .setWithSource key value kind scope source
  | .setVariable v source => .setVariable { v with value } source
  | operation => operation

end StoreOperation

/-- True if what an operation has written is a secret. -/
def Store.hasSecretOf (store : Store) (operation : StoreOperation) : Bool :=
  match operation.slot? with
  | some (key, scope) => (store.raw? key scope).any Variable.isSecret
  | none => false

/-- An operation that has written a secret would look the same with any other value. -/
theorem Store.veil_withValue {store : Store} {operation : StoreOperation}
    (secret : (store.perform operation).hasSecretOf operation = true) (value : String) :
    (store.perform (operation.withValue value)).veil = (store.perform operation).veil := by
  have write (key before : String) (kind : Option Kind) (scope : Scope) (source : ChangeSource)
      (secret : (store.perform (.setWithSource key before kind scope source)).hasSecretOf
        (.setWithSource key before kind scope source) = true) :
      (store.perform (.setWithSource key value kind scope source)).veil =
        (store.perform (.setWithSource key before kind scope source)).veil := by
    simp only [perform_setWithSource] at secret ⊢
    cases checked : Key.check key with
    | error _ => rfl
    | ok _ =>
      have found := raw?_put store (written (store.raw? key scope) key before kind scope) source
      simp only [checked, hasSecretOf, StoreOperation.slot?] at secret
      rw [written_key, written_scope] at found
      rw [found] at secret
      simp only [veil_put, masked_written secret]
  cases operation with
  | set key before scope => exact write key before none scope .manual secret
  | setWithSource key before kind scope source => exact write key before kind scope source secret
  | setVariable v source =>
    simp only [StoreOperation.withValue, perform_setVariable] at secret ⊢
    cases checked : Key.check v.key with
    | error _ => rfl
    | ok _ =>
      simp only [checked, hasSecretOf, StoreOperation.slot?, raw?_put, Option.any_some] at secret
      simp only [veil_put, Variable.masked_withValue secret]
  | delete | setEnabled | clearScope => simp [hasSecretOf, StoreOperation.slot?] at secret

/-- Two sequences of events that differ in their times and in the values of secrets: a value may be
another one only where the operation, in the run of the first sequence, leaves a secret behind. -/
inductive SecretTwins : Store → List StoreEvent → List StoreEvent → Prop
  | nil (store : Store) : SecretTwins store [] []
  | same {store : Store} {first second : List StoreEvent} (operation : StoreOperation)
      (time other : Instant) (rest : SecretTwins (store.step ⟨time, operation⟩) first second) :
      SecretTwins store (⟨time, operation⟩ :: first) (⟨other, operation⟩ :: second)
  | secret {store : Store} {first second : List StoreEvent} (operation : StoreOperation)
      (time other : Instant) (value : String)
      (written : (store.step ⟨time, operation⟩).hasSecretOf operation = true)
      (rest : SecretTwins (store.step ⟨time, operation⟩) first second) :
      SecretTwins store (⟨time, operation⟩ :: first) (⟨other, operation.withValue value⟩ :: second)

namespace SecretTwins
variable {store other : Store} {first second : List StoreEvent}

theorem take (twins : SecretTwins store first second) (n : Nat) :
    SecretTwins store (first.take n) (second.take n) := by
  induction twins generalizing n with
  | nil => simpa using .nil _
  | same operation time other _ ih =>
    cases n with
    | zero => exact .nil _
    | succ n => exact .same operation time other (ih n)
  | secret operation time other value written _ ih =>
    cases n with
    | zero => exact .nil _
    | succ n => exact .secret operation time other value written (ih n)

/-- Twins that start from stores that look the same end in stores that look the same. -/
theorem veil_after (twins : SecretTwins store first second) (alike : store.veil = other.veil) :
    (store.after first).veil = (other.after second).veil := by
  induction twins generalizing other with
  | nil => exact alike
  | @same store _ _ operation time later _ ih =>
    apply ih
    exact Store.veil_perform_congr (store.at_ time) (other.at_ later) alike _
  | @secret store _ _ operation time later value written _ ih =>
    apply ih
    calc ((store.at_ time).perform operation).veil
      _ = ((store.at_ time).perform (operation.withValue value)).veil :=
        (Store.veil_withValue written value).symm
      _ = ((other.at_ later).perform (operation.withValue value)).veil :=
        Store.veil_perform_congr (store.at_ time) (other.at_ later) alike _

end SecretTwins

namespace Store

theorem exportScope_eq_veil (store : Store) (scope : Scope) :
    store.exportScope scope = store.veil.list scope := by
  rw [list, table_veil]
  simp [exportScope, list, Table.values, Table.mapValues]

/-- Stores that look the same have the same exports, and the same history but for its times. -/
theorem seen_of_veil_eq {first second : Store} (alike : first.veil = second.veil) :
    (∀ name limit, (first.history.entries name limit).map Change.undated =
        (second.history.entries name limit).map Change.undated) ∧
      (∀ scope, first.exportScopeJson scope = second.exportScopeJson scope) ∧
      first.exportJson = second.exportJson := by
  have history : first.history.undated = second.history.undated := congrArg Store.history alike
  have scopes (scope : Scope) : first.exportScopeJson scope = second.exportScopeJson scope := by
    rw [exportScopeJson, exportScopeJson, exportScope_eq_veil, exportScope_eq_veil, alike]
  refine ⟨fun name limit => ?_, scopes, ?_⟩
  · rw [← History.entries_undated, ← History.entries_undated, history]
  · simp only [exportJson, scopes]

/-- No secret can be read off the history or an export: of two sequences of events that differ in
the values of secrets alone, every part shows the same. -/
theorem secrets_stay_inside {limit depth : Nat} {now later : Instant}
    {first second : List StoreEvent}
    (twins : SecretTwins (Store.empty limit depth now) first second) (n : Nat) :
    let one := (Store.empty limit depth now).after (first.take n)
    let two := (Store.empty limit depth later).after (second.take n)
    (∀ name count, (one.history.entries name count).map Change.undated =
        (two.history.entries name count).map Change.undated) ∧
      (∀ scope, one.exportScopeJson scope = two.exportScopeJson scope) ∧
      one.exportJson = two.exportJson :=
  have alike : (Store.empty limit depth now).veil = (Store.empty limit depth later).veil := rfl
  seen_of_veil_eq ((twins.take n).veil_after alike)

/-- A key is set, changed, laid open and removed; the open value is the same in both runs. -/
theorem secrets_stay_inside_key_change :
    let events (old new : String) (time : Instant) : List StoreEvent :=
      [⟨time, .setVariable ⟨"key", old, .secret, .environment, true, none⟩ .import_⟩,
        ⟨time, .set "key" new .environment⟩,
        ⟨time, .setWithSource "key" new (some .string) .environment .script⟩,
        ⟨time, .setVariable ⟨"key", "open", .string, .environment, true, none⟩ .manual⟩,
        ⟨time, .delete "key" .environment⟩]
    SecretTwins (.empty 10 5 ⟨0⟩) (events "a" "b" ⟨1⟩) (events "c" "d" ⟨2⟩) ∧
      ((Store.empty 10 5 ⟨0⟩).after ((events "a" "b" ⟨1⟩).take 3)).exportJson =
        ((Store.empty 10 5 ⟨0⟩).after ((events "c" "d" ⟨2⟩).take 3)).exportJson := by
  intro events
  have twins : SecretTwins (.empty 10 5 ⟨0⟩) (events "a" "b" ⟨1⟩) (events "c" "d" ⟨2⟩) :=
    .secret _ _ _ "c" (by decide) <| .secret _ _ _ "d" (by decide) <| .secret _ _ _ "d" (by decide) <|
      .same _ _ _ <| .same _ _ _ <| .nil _
  exact ⟨twins, (secrets_stay_inside twins 3).2.2⟩

/-!
### Stores without their times

A clock marks the changes in a history and does nothing else, so a store can be compared with one that
got the same changes at other times.
-/

/-- The store with no times in its history. -/
def undated (store : Store) : Store := { store with history := store.history.undated }

@[simp] theorem undated_at_ (store : Store) (time : Instant) :
    (store.at_ time).undated = store.undated := rfl

theorem undated_put (store : Store) (v : Variable) (source : ChangeSource) :
    (store.put v source).undated = store.undated.put v source := by
  rw [put, undated, History.undated_record]
  rfl

end Store
end ApiProbe
