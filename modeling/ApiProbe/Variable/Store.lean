import ApiProbe.Variable.Record
import ApiProbe.Variable.History

/-!
The store of variables: for every scope a table from keys to variables, and the history of their
changes. Values of secrets enter neither the history nor an export.
-/
namespace ApiProbe

structure Store where
  scopes : PerScope (Table Variable)
  history : History
  /-- How deep values that refer to other variables are followed. -/
  depth : Nat

namespace Store

/-- A store without variables; references are followed at least one level. -/
def empty (historyLimit depth : Nat) (now : Instant) : Store :=
  ⟨.all [], .empty historyLimit now, max depth 1⟩

def table (store : Store) (scope : Scope) : Table Variable := store.scopes.get scope

/-- The variable under a key, enabled or not. -/
def raw? (store : Store) (key : String) (scope : Scope) : Option Variable :=
  (store.table scope).find? key

/-- The enabled variable under a key. -/
def enabled? (store : Store) (key : String) (scope : Scope) : Option Variable :=
  (store.raw? key scope).filter Variable.enabled

/-- Looks in one scope, or through all of them in order of precedence. -/
def find? (store : Store) (key : String) : Option Scope → Option Variable
  | some scope => store.enabled? key scope
  | none => Scope.precedence.findSome? (store.enabled? key)

def get? (store : Store) (key : String) (scope : Option Scope) : Option String :=
  (store.find? key scope).map Variable.value

/-- The old value as the history may show it: masked when either side is secret. -/
def oldDisplay (new old : Variable) : String := if new.isSecret then Variable.mask else old.display

/-- Puts a variable under its own key and scope, and records the change. -/
def put (store : Store) (variable_ : Variable) (source : ChangeSource) : Store :=
  let scope := variable_.scope
  let old := store.raw? variable_.key scope
  { store with
    scopes := store.scopes.set scope ((store.table scope).insert variable_.key variable_)
    history := store.history.record variable_.key (old.map (oldDisplay variable_))
      (some variable_.display) scope source }

theorem raw?_put (store : Store) (variable_ : Variable) (source : ChangeSource) :
    (store.put variable_ source).raw? variable_.key variable_.scope = some variable_ := by
  simp only [raw?, table, put, PerScope.get_set_self, Table.find?_insert_self]

/-- The variable that a write leaves behind. A secret stays secret; any other kind is the given one
or else the one the value looks like. A description stays, and writing enables. -/
def written (old : Option Variable) (key value : String) (kind : Option Kind) (scope : Scope) :
    Variable :=
  let plain := kind.getD (Kind.infer value)
  match old with
  | some v =>
    { v with key, value, scope, enabled := true, kind := if v.isSecret then v.kind else plain }
  | none => ⟨key, value, plain, scope, true, none⟩

@[simp] theorem written_key (old : Option Variable) (key value : String) (kind : Option Kind)
    (scope : Scope) : (written old key value kind scope).key = key := by
  cases old <;> rfl

@[simp] theorem written_scope (old : Option Variable) (key value : String) (kind : Option Kind)
    (scope : Scope) : (written old key value kind scope).scope = scope := by
  cases old <;> rfl

/-- Writes a value and gives back the one it replaced. -/
def write (store : Store) (key value : String) (kind : Option Kind) (scope : Scope)
    (source : ChangeSource) : Except VariableError (Option String × Store) := do
  Key.check key
  let old := store.raw? key scope
  pure (old.map Variable.value, store.put (written old key value kind scope) source)

def set (store : Store) (key value : String) (scope : Scope) :
    Except VariableError (Option String × Store) :=
  store.write key value none scope .manual

/-- Puts a whole variable in place of the one under its key. -/
def setVariable (store : Store) (variable_ : Variable) (source : ChangeSource) :
    Except VariableError Store := do
  Key.check variable_.key
  pure (store.put variable_ source)

/-- Removes a variable, enabled or not, and gives it back. -/
def delete (store : Store) (key : String) (scope : Scope) : Option Variable × Store :=
  match store.raw? key scope with
  | none => (none, store)
  | some v =>
    (some v, { store with
      scopes := store.scopes.set scope ((store.table scope).erase key)
      history := store.history.record key (some v.display) none scope .manual })

/-- Switches a variable on or off. The history does not record that. -/
def setEnabled (store : Store) (key : String) (scope : Scope) (enabled : Bool) :
    Except VariableError Store :=
  match store.raw? key scope with
  | none => .error (.undefined s!"{scope.name}.{key}")
  | some v =>
    .ok { store with
      scopes := store.scopes.set scope ((store.table scope).insert key { v with enabled }) }

/-- The variables of a scope in key order. -/
def list (store : Store) (scope : Scope) : List Variable := (store.table scope).values

def size (store : Store) (scope : Scope) : Nat := (store.table scope).length

/-- Empties a scope. The history does not record that. -/
def clearScope (store : Store) (scope : Scope) : Store :=
  { store with scopes := store.scopes.set scope [] }

/-- The variables of a scope as they may leave the program. -/
def exportScope (store : Store) (scope : Scope) : List Variable :=
  (store.list scope).map Variable.masked

end Store
end ApiProbe
