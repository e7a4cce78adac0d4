import ApiProbe.Variable.Codec

/-!
Runs of a store: everything that can be asked of it from outside, one request after the other. Each
request comes at a time of its own, and one that is refused leaves the store as it is.
-/
namespace ApiProbe

inductive StoreOperation
  | set (key value : String) (scope : Scope)
  | setWithSource (key value : String) (kind : Option Kind) (scope : Scope) (source : ChangeSource)
  | setVariable (variable_ : Variable) (source : ChangeSource)
  | delete (key : String) (scope : Scope)
  | setEnabled (key : String) (scope : Scope) (enabled : Bool)
  | clearScope (scope : Scope)
  deriving Repr, DecidableEq

/-- An operation and the time at which the store gets it. -/
structure StoreEvent where
  time : Instant
  operation : StoreOperation
  deriving Repr, DecidableEq

namespace Store

/-- The store that an attempt leaves: the new one, or the old one if it was refused. -/
def settle {ε : Type} (store : Store) : Except ε Store → Store
  | .ok after => after
  | .error _ => store

def perform (store : Store) : StoreOperation → Store
  | .set key value scope => store.settle ((store.set key value scope).map Prod.snd)
  | .setWithSource key value kind scope source =>
    store.settle ((store.write key value kind scope source).map Prod.snd)
  | .setVariable variable_ source => store.settle (store.setVariable variable_ source)
  | .delete key scope => (store.delete key scope).2
  | .setEnabled key scope enabled => store.settle (store.setEnabled key scope enabled)
  | .clearScope scope => store.clearScope scope

/-- The store with its clock put to a time. -/
def at_ (store : Store) (time : Instant) : Store :=
  { store with history := { store.history with now := time } }

def step (store : Store) (event : StoreEvent) : Store := (store.at_ event.time).perform event.operation

/-- The store after a sequence of events. -/
def after (store : Store) (events : List StoreEvent) : Store := events.foldl step store

/-- A write is refused because of its key alone; otherwise it puts the written variable in place. -/
theorem perform_setWithSource (store : Store) (key value : String) (kind : Option Kind)
    (scope : Scope) (source : ChangeSource) :
    store.perform (.setWithSource key value kind scope source) =
      match Key.check key with
      | .ok _ => store.put (written (store.raw? key scope) key value kind scope) source
      | .error _ => store := by
  simp only [perform, write, bind, Except.bind]
  cases Key.check key <;> rfl

theorem perform_setVariable (store : Store) (variable_ : Variable) (source : ChangeSource) :
    store.perform (.setVariable variable_ source) =
      match Key.check variable_.key with
      | .ok _ => store.put variable_ source
      | .error _ => store := by
  simp only [perform, setVariable, bind, Except.bind]
  cases Key.check variable_.key <;> rfl

end Store
end ApiProbe
