import ApiProbe.Variable.Access

/-!
What limited access leaves alone. The scopes that may not be written keep their variables and get no
entries in the history; without any scope to write the store stays as it is.
-/
namespace ApiProbe

/-- Changes in scopes that the access does not write. -/
def Access.foreign (access : Access) (changes : List Change) : List Change :=
  changes.filter fun change => !access.canWrite change.scope

/-- What an access can make of a store. Trails list the newest change first, so nothing new stands in
a part that they begin with; the oldest changes may be forgotten, as they are past the limit of the
history. -/
structure Access.Reaches (access : Access) (before after : Store) : Prop where
  tables : ∀ scope, access.canWrite scope = false → after.table scope = before.table scope
  trails : ∀ name,
    access.foreign (after.history.trail name) <+: access.foreign (before.history.trail name)
  entries : ∀ change ∈ after.history.everything, access.canWrite change.scope = false →
    change ∈ before.history.everything
  unchanged : (∀ scope, access.canWrite scope = false) → after = before

namespace Access.Reaches
variable {access : Access}

theorem refl (store : Store) : access.Reaches store store :=
  ⟨fun _ _ => rfl, fun _ => List.prefix_rfl, fun _ member _ => member, fun _ => rfl⟩

theorem trans {first second third : Store} (one : access.Reaches first second)
    (two : access.Reaches second third) : access.Reaches first third where
  tables scope closed := (two.tables scope closed).trans (one.tables scope closed)
  trails name := (two.trails name).trans (one.trails name)
  entries change member closed :=
    one.entries change (two.entries change member closed) closed
  unchanged closed := (two.unchanged closed).trans (one.unchanged closed)

end Access.Reaches

theorem History.trail_subset_everything {history : History} {name : String} {change : Change}
    (member : change ∈ history.trail name) : change ∈ history.everything := by
  unfold trail at member
  cases found : history.trails.find? name with
  | none => simp [found] at member
  | some changes =>
    rw [found] at member
    exact (history.mem_everything change).mpr ⟨changes, Table.mem_values_of_find? found, member⟩

/-- Besides what was there, the history holds the change that was recorded last. -/
theorem History.mem_everything_record {history : History} {name : String}
    {old new : Option String} {scope : Scope} {source : ChangeSource} {change : Change}
    (member : change ∈ (history.record name old new scope source).everything) :
    change.scope = scope ∨ change ∈ history.everything := by
  obtain ⟨trail, present, inside⟩ := (History.mem_everything _ change).mp member
  rcases Table.mem_values_insert present with same | before
  · subst same
    rcases List.mem_cons.mp (List.mem_of_mem_take inside) with latest | older
    · exact .inl (by rw [latest])
    · exact .inr (trail_subset_everything older)
  · exact .inr ((history.mem_everything change).mpr ⟨trail, before, inside⟩)

/-- A change in an open scope adds no entry for the others. -/
theorem History.foreign_record (access : Access) (history : History) (name other : String)
    (old new : Option String) (scope : Scope) (source : ChangeSource)
    (opened : access.canWrite scope = true) :
    access.foreign ((history.record name old new scope source).trail other)
      <+: access.foreign (history.trail other) := by
  by_cases same : other = name
  · subst same
    simp only [History.record, History.trail, Table.find?_insert_self, Option.getD_some]
    cases history.limit with
    | zero => simp [Access.foreign]
    | succ limit =>
      simp only [List.take_succ_cons, Access.foreign, List.filter_cons, opened, Bool.not_true,
        Bool.false_eq_true, ↓reduceIte]
      exact (List.take_prefix _ _).filter _
  · simp only [History.record, History.trail, Table.find?_insert_of_ne _ _ same]
    exact List.prefix_rfl

/-- Changing the table of an open scope with a note in the history stays within reach. -/
theorem Access.reaches_change (access : Access) (store : Store) (table : Table Variable)
    (name : String) (old new : Option String) (scope : Scope) (source : ChangeSource)
    (opened : access.canWrite scope = true) :
    access.Reaches store { store with
      scopes := store.scopes.set scope table
      history := store.history.record name old new scope source } where
  tables other closed := by
    have different : other ≠ scope := by
      intro same
      rw [same, opened] at closed
      cases closed
    exact PerScope.get_set_of_ne _ _ different
  trails other := History.foreign_record access store.history name other old new scope source opened
  entries change member closed := by
    rcases History.mem_everything_record member with own | before
    · rw [own, opened] at closed
      cases closed
    · exact before
  unchanged closed := absurd (closed scope) (by simp [opened])

theorem Access.reaches_put (access : Access) (store : Store) (variable_ : Variable)
    (source : ChangeSource) (opened : access.canWrite variable_.scope = true) :
    access.Reaches store (store.put variable_ source) :=
  access.reaches_change store _ _ _ _ _ source opened

theorem Access.reaches_write (access : Access) {store after : Store} {key value : String}
    {kind : Option Kind} {scope : Scope} {source : ChangeSource} {old : Option String}
    (opened : access.canWrite scope = true)
    (done : store.write key value kind scope source = .ok (old, after)) :
    access.Reaches store after := by
  simp only [Store.write, bind, Except.bind] at done
  split at done
  · cases done
  · cases done
    exact access.reaches_put store _ _ (by simpa using opened)

theorem Access.reaches_delete (access : Access) (store : Store) (key : String) {scope : Scope}
    (opened : access.canWrite scope = true) :
    access.Reaches store (store.delete key scope).2 := by
  unfold Store.delete
  split
  · exact .refl store
  · exact access.reaches_change store _ _ _ _ _ _ opened

namespace Handle

/-- A handle on a store that its access can have made of another one. -/
structure Within (access : Access) (start : Store) (handle : Handle) : Prop where
  same : handle.access = access
  reached : access.Reaches start handle.store

variable {access : Access} {start : Store} {handle after : Handle}

theorem Within.initial (access : Access) (start : Store) : Within access start ⟨start, access⟩ :=
  ⟨rfl, .refl start⟩

private theorem Within.extend (within : Within access start handle)
    {store : Store} (more : access.Reaches handle.store store) :
    Within access start ⟨store, access⟩ :=
  ⟨rfl, within.reached.trans more⟩

theorem Within.set (within : Within access start handle) {key value : String} {scope : Scope}
    (done : handle.set key value scope = .ok after) : Within access start after := by
  simp only [Handle.set, Access.set, within.same] at done
  split at done
  · rename_i opened
    simp only [bind, Except.bind] at done
    split at done
    · cases done
    · rename_i written
      cases done
      exact within.extend (access.reaches_write opened written)
  · cases done

theorem Within.unset (within : Within access start handle) {key : String} {scope : Scope}
    {found : Bool} (done : handle.unset key scope = .ok (found, after)) :
    Within access start after := by
  simp only [Handle.unset, Access.unset, within.same] at done
  split at done
  · rename_i opened
    cases done
    exact within.extend (access.reaches_delete handle.store key opened)
  · cases done

/-- Keeping a value is safe only where the handle may write. -/
theorem Within.keep (within : Within access start handle) {key value : String} {scope : Scope}
    (opened : handle.canWrite scope = true) (done : handle.keep key value scope = .ok after) :
    Within access start after := by
  rw [canWrite, within.same] at opened
  simp only [Handle.keep, within.same, bind, Except.bind] at done
  split at done
  · cases done
  · rename_i written
    cases done
    exact within.extend (access.reaches_write opened written)

end Handle
end ApiProbe
