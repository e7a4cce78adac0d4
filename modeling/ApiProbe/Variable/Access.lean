import ApiProbe.Variable.Store

/-!
Access to a store on behalf of someone: which scopes may be written, and under whose name changes
are recorded. Reading is always allowed. A handle is a store in the hands of somebody with such access:
reading goes straight to the store, setting and unsetting go by the access, and keeping a value goes past
it and leaves it to the caller to ask first.
-/
namespace ApiProbe

structure Access where
  writable : PerScope Bool
  source : ChangeSource

namespace Access

def full (source : ChangeSource) : Access := ⟨.all true, source⟩

/-- Write access to the listed scopes alone. -/
def limited (scopes : List Scope) (source : ChangeSource) : Access :=
  ⟨scopes.foldl (fun flags scope => flags.set scope true) (.all false), source⟩

def readOnly : Access := limited [] .manual

def canWrite (access : Access) (scope : Scope) : Bool := access.writable.get scope

def set (access : Access) (store : Store) (key value : String) (scope : Scope) :
    Except VariableError (Option String × Store) :=
  if access.canWrite scope then store.write key value none scope access.source
  else .error (.readOnly scope)

/-- Removes a variable; the flag says whether there was one. -/
def unset (access : Access) (store : Store) (key : String) (scope : Scope) :
    Except VariableError (Bool × Store) :=
  if access.canWrite scope then
    let (removed, rest) := store.delete key scope
    .ok (removed.isSome, rest)
  else .error (.readOnly scope)

end Access

structure Handle where
  store : Store
  access : Access

namespace Handle

def get? (handle : Handle) (key : String) (scope : Option Scope) : Option String :=
  handle.store.get? key scope

def canWrite (handle : Handle) (scope : Scope) : Bool := handle.access.canWrite scope

def set (handle : Handle) (key value : String) (scope : Scope) : Except VariableError Handle := do
  let (_, store) ← handle.access.set handle.store key value scope
  pure { handle with store }

/-- Removes a variable; the flag says whether there was one. -/
def unset (handle : Handle) (key : String) (scope : Scope) :
    Except VariableError (Bool × Handle) := do
  let (found, store) ← handle.access.unset handle.store key scope
  pure (found, { handle with store })

/-- Writes to the store itself, without a look at the scopes that may be written. -/
def keep (handle : Handle) (key value : String) (scope : Scope) : Except VariableError Handle := do
  let (_, store) ← handle.store.write key value none scope handle.access.source
  pure { handle with store }

end Handle
end ApiProbe
