import ApiProbe.Proofs.Variable.Slots
import Mathlib.Data.List.Induction

/-!
What the history tells of the variables. Every write and every removal of a variable is recorded, so
the newest change of a key in a scope tells what the scope shows under it. The one thing that goes
unrecorded is the clearing of a scope: until a variable that it swept away is written again, the
history tells of a value that nobody has.
-/
namespace ApiProbe

namespace History

/-- The newest change of a variable in a scope. -/
def newest? (history : History) (key : String) (scope : Scope) : Option Change :=
  (inScope scope (history.entries (some key) none)).head?

/-- A change is the newest one of its key in its scope and of no other. -/
theorem newest?_record {history : History} {key : String}
    (room : (history.trail key).length < history.limit) (name : String) (old new : Option String)
    (scope other : Scope) (source : ChangeSource) :
    (history.record name old new scope source).newest? key other =
      if key = name ∧ other = scope then
        some ⟨history.last + 1, name, old, new, scope, source, history.now⟩
      else history.newest? key other := by
  have whole (history : History) : history.newest? key other =
      (inScope other (history.trail key)).head? := rfl
  rw [whole, whole, trail_record, List.take_of_length_le (Nat.succ_le_of_lt room)]
  by_cases same : key = name
  · by_cases own : other = scope
    · subst own
      rw [if_pos same, if_pos ⟨same, rfl⟩, inScope, List.filter_cons_of_pos (by simp),
        List.head?_cons]
    · rw [if_pos same, if_neg fun both => own both.2, inScope,
        List.filter_cons_of_neg (by simpa using fun equal => own equal.symm), inScope]
  · rw [if_neg same, if_neg fun both => same both.1]

end History

namespace Store
variable {store start : Store} {events : List StoreEvent} {key : String} {scope : Scope}

/-- The history is right about a variable: the newest change tells what the scope shows, and tells of
no value if there is no variable. -/
def Faithful (store : Store) (key : String) (scope : Scope) : Prop :=
  match store.raw? key scope with
  | some v => ∃ change, store.history.newest? key scope = some change ∧ change.new = some v.display
  | none => ∀ change, store.history.newest? key scope = some change → change.new = none

/-- The value that the history tells of. -/
def told (store : Store) (key : String) (scope : Scope) : Option String :=
  (store.history.newest? key scope).bind Change.new

/-- The value that may be shown of a variable. -/
def shown (store : Store) (key : String) (scope : Scope) : Option String :=
  (store.raw? key scope).map Variable.display

theorem shown_eq_none_iff : store.shown key scope = none ↔ store.raw? key scope = none :=
  Option.map_eq_none_iff

theorem faithful_iff : store.Faithful key scope ↔ store.told key scope = store.shown key scope := by
  unfold Faithful told shown
  cases store.raw? key scope with
  | some v => exact Option.bind_eq_some_iff.symm
  | none => exact Option.bind_eq_none_iff.symm

/-- The event clears a scope that holds a variable under the key. -/
def Sweeps (store : Store) (event : StoreEvent) (key : String) (scope : Scope) : Prop :=
  event.operation = .clearScope scope ∧ store.raw? key scope ≠ none

/-- What an event means for the history of one variable. -/
inductive Entered (store : Store) (event : StoreEvent) (key : String) (scope : Scope) : Prop
  /-- Nothing is told and nothing shown that was not before. -/
  | silent (told : (store.step event).told key scope = store.told key scope)
      (shown : (store.step event).shown key scope = store.shown key scope)
      (kept : ¬store.Sweeps event key scope)
  /-- The variable is written or removed, and the history tells it. -/
  | recorded (told : (store.step event).told key scope = (store.step event).shown key scope)
      (held : store.raw? key scope ≠ none ∨ (store.step event).raw? key scope ≠ none)
      (kept : ¬store.Sweeps event key scope)
  /-- The variable is swept away, and the history goes on as if it were there. -/
  | swept (gone : (store.step event).raw? key scope = none)
      (told : (store.step event).told key scope = store.told key scope)
      (sweeps : store.Sweeps event key scope)

theorem told_record (store : Store) {changed : PerScope (Table Variable)}
    (room : (store.history.trail key).length < store.history.limit) (name : String)
    (old new : Option String) (other : Scope) (source : ChangeSource) :
    { store with
      scopes := changed
      history := store.history.record name old new other source }.told key scope =
      if key = name ∧ scope = other then new else store.told key scope := by
  rw [told, History.newest?_record room]
  split <;> rfl

theorem shown_of_slots_eq {after : Store} {slots : Slots} (same : after.slots = slots) :
    after.shown key scope = (slots scope key).map Variable.display := by
  rw [← same]
  rfl

theorem Entered.put {time : Instant} {operation : StoreOperation} {v : Variable}
    {source : ChangeSource} (room : (store.history.trail key).length < store.history.limit)
    (ended : store.step ⟨time, operation⟩ = (store.at_ time).put v source)
    (keeps : operation ≠ .clearScope scope) : store.Entered ⟨time, operation⟩ key scope := by
  have told : (store.step ⟨time, operation⟩).told key scope =
      if key = v.key ∧ scope = v.scope then some v.display else store.told key scope := by
    rw [ended]
    exact told_record (store.at_ time) room v.key _ _ v.scope source
  have slots : (store.step ⟨time, operation⟩).slots =
      store.slots.assign v.scope v.key (some v) := by
    rw [ended]
    exact (store.at_ time).slots_insert v.scope v.key v _
  by_cases own : key = v.key ∧ scope = v.scope
  · obtain ⟨rfl, rfl⟩ := own
    have present : (store.step ⟨time, operation⟩).raw? v.key v.scope = some v := by
      rw [ended]
      exact raw?_put (store.at_ time) v source
    refine .recorded ?_ (.inr (by simp [present])) fun sweeps => keeps sweeps.1
    rw [told, if_pos ⟨rfl, rfl⟩, shown, present]
    rfl
  · refine .silent (by rw [told, if_neg own]) ?_ fun sweeps => keeps sweeps.1
    rw [shown_of_slots_eq slots, Slots.assign, if_neg fun target => own ⟨target.2, target.1⟩]
    rfl

theorem Entered.unchanged {time : Instant} {operation : StoreOperation}
    (ended : store.step ⟨time, operation⟩ = store.at_ time)
    (keeps : operation ≠ .clearScope scope) : store.Entered ⟨time, operation⟩ key scope :=
  .silent (by rw [ended]; rfl) (by rw [ended]; rfl) fun sweeps => keeps sweeps.1

theorem entered_delete (room : (store.history.trail key).length < store.history.limit)
    (time : Instant) (name : String) (other : Scope) :
    store.Entered ⟨time, .delete name other⟩ key scope := by
  have slots : (store.step ⟨time, .delete name other⟩).slots = store.slots.assign other name none :=
    (store.at_ time).slots_delete name other
  cases found : store.raw? name other with
  | none =>
    refine .unchanged ?_ (by simp)
    have absent : (store.at_ time).raw? name other = none := found
    simp only [step, perform, delete, absent]
  | some v =>
    have told : (store.step ⟨time, .delete name other⟩).told key scope =
        if key = name ∧ scope = other then none else store.told key scope := by
      have present : (store.at_ time).raw? name other = some v := found
      simp only [step, perform, delete, present]
      exact told_record (store.at_ time) room name _ _ other .manual
    by_cases own : key = name ∧ scope = other
    · obtain ⟨rfl, rfl⟩ := own
      refine .recorded ?_ (.inl (by simp [found])) fun sweeps => by cases sweeps.1
      rw [told, if_pos ⟨rfl, rfl⟩, shown_of_slots_eq slots, Slots.assign, if_pos ⟨rfl, rfl⟩]
      rfl
    · refine .silent (by rw [told, if_neg own]) ?_ fun sweeps => by cases sweeps.1
      rw [shown_of_slots_eq slots, Slots.assign, if_neg fun target => own ⟨target.2, target.1⟩]
      rfl

theorem entered_setEnabled (time : Instant) (name : String) (other : Scope) (enabled : Bool) :
    store.Entered ⟨time, .setEnabled name other enabled⟩ key scope := by
  cases found : store.raw? name other with
  | none =>
    refine .unchanged ?_ (by simp)
    have absent : (store.at_ time).raw? name other = none := found
    simp only [step, perform, setEnabled, absent, settle]
  | some v =>
    have present : (store.at_ time).raw? name other = some v := found
    have slots : (store.step ⟨time, .setEnabled name other enabled⟩).slots =
        store.slots.assign other name (some { v with enabled }) := by
      simp only [step, perform, setEnabled, present, settle]
      exact (store.at_ time).slots_insert other name _ store.history
    have told : (store.step ⟨time, .setEnabled name other enabled⟩).told key scope =
        store.told key scope := by
      simp only [step, perform, setEnabled, present, settle]
      rfl
    refine .silent told ?_ fun sweeps => by cases sweeps.1
    rw [shown_of_slots_eq slots, Slots.assign]
    split
    · rename_i target
      obtain ⟨rfl, rfl⟩ := target
      rw [shown, found]
      rfl
    · rfl

theorem entered_clearScope (time : Instant) (other : Scope) :
    store.Entered ⟨time, .clearScope other⟩ key scope := by
  have slots : (store.step ⟨time, .clearScope other⟩).slots = store.slots.clear other :=
    (store.at_ time).slots_clearScope other
  have raw : (store.step ⟨time, .clearScope other⟩).raw? key scope =
      if scope = other then none else store.raw? key scope := congrFun (congrFun slots scope) key
  by_cases own : scope = other
  · subst own
    rw [if_pos rfl] at raw
    cases found : store.raw? key scope with
    | some v => exact .swept raw rfl ⟨rfl, by simp [found]⟩
    | none => exact .silent rfl (by simp [shown, raw, found]) fun sweeps => sweeps.2 found
  · rw [if_neg own] at raw
    refine .silent rfl (by rw [shown, raw, shown]) fun sweeps => ?_
    cases sweeps.1
    exact own rfl

/-- Every event is told by the history or means nothing to it, but for the clearing of a scope. -/
theorem entered (room : (store.history.trail key).length < store.history.limit)
    (event : StoreEvent) : store.Entered event key scope := by
  obtain ⟨time, operation⟩ := event
  have write (name value : String) (kind : Option Kind) (other : Scope) (source : ChangeSource)
      (same : (store.at_ time).perform operation =
        (store.at_ time).perform (.setWithSource name value kind other source))
      (keeps : operation ≠ .clearScope scope) : store.Entered ⟨time, operation⟩ key scope := by
    rw [perform_setWithSource] at same
    cases checked : Key.check name with
    | error _ =>
      rw [checked] at same
      exact .unchanged same keeps
    | ok _ =>
      rw [checked] at same
      exact .put room same keeps
  cases operation with
  | set name value other => exact write name value none other .manual rfl (by simp)
  | setWithSource name value kind other source =>
    exact write name value kind other source rfl (by simp)
  | setVariable v source =>
    have same := perform_setVariable (store.at_ time) v source
    cases checked : Key.check v.key with
    | error _ =>
      rw [checked] at same
      exact .unchanged same (by simp)
    | ok _ =>
      rw [checked] at same
      exact .put room same (by simp)
  | delete name other => exact entered_delete room time name other
  | setEnabled name other enabled => exact entered_setEnabled time name other enabled
  | clearScope other => exact entered_clearScope time other

/-- After an event the history is right about a variable unless the event has swept it away, or it
was swept away before and has not come back. -/
theorem Entered.faithful_iff {event : StoreEvent} {swept : Prop}
    (entered : store.Entered event key scope) (gone : swept → store.raw? key scope = none)
    (before : store.Faithful key scope ↔ ¬swept) :
    (store.step event).Faithful key scope ↔
      ¬((swept ∧ (store.step event).raw? key scope = none) ∨ store.Sweeps event key scope) := by
  rw [Store.faithful_iff] at before ⊢
  cases entered with
  | silent told shown kept =>
    have absent : (store.step event).raw? key scope = none ↔ store.raw? key scope = none := by
      rw [← shown_eq_none_iff, shown, shown_eq_none_iff]
    rw [told, shown, before, absent]
    constructor
    · rintro clean (⟨lost, -⟩ | sweeps)
      · exact clean lost
      · exact kept sweeps
    · intro clean lost
      exact clean (.inl ⟨lost, gone lost⟩)
  | recorded told held kept =>
    refine ⟨fun _ => ?_, fun _ => told⟩
    rintro (⟨lost, absent⟩ | sweeps)
    · rcases held with was | is
      · exact was (gone lost)
      · exact is absent
    · exact kept sweeps
  | swept absent told sweeps =>
    refine ⟨fun same => ?_, fun clean => absurd (.inr sweeps) clean⟩
    -- What was there is still told of, so it cannot be that nothing is.
    have shown := before.mpr fun lost => sweeps.2 (gone lost)
    rw [told, shown, shown_eq_none_iff.mpr absent, shown_eq_none_iff] at same
    exact absurd same sweeps.2

/-- Before every event there is room for a change of the key, so that none is ever forgotten. -/
def HasRoom (start : Store) (events : List StoreEvent) (key : String) : Prop :=
  ∀ n, n < events.length →
    ((start.after (events.take n)).history.trail key).length <
      (start.after (events.take n)).history.limit

/-- A variable is gone since its scope was cleared, and has not been written again. -/
def SweptAway (start : Store) (events : List StoreEvent) (key : String) (scope : Scope) : Prop :=
  ∃ before time rest, events = before ++ ⟨time, .clearScope scope⟩ :: rest ∧
    (start.after before).raw? key scope ≠ none ∧
    ∀ n, (start.after (before ++ ⟨time, .clearScope scope⟩ :: rest.take n)).raw? key scope = none

theorem after_concat (start : Store) (events : List StoreEvent) (event : StoreEvent) :
    start.after (events ++ [event]) = (start.after events).step event :=
  List.foldl_append

theorem HasRoom.of_concat {event : StoreEvent} (room : start.HasRoom (events ++ [event]) key) :
    start.HasRoom events key ∧ ((start.after events).history.trail key).length <
      (start.after events).history.limit := by
  constructor
  · intro n below
    have earlier := room n (by rw [List.length_append]; omega)
    rwa [List.take_append_of_le_length (Nat.le_of_lt below)] at earlier
  · have last := room events.length (by simp)
    rwa [List.take_left] at last

theorem SweptAway.gone (swept : start.SweptAway events key scope) :
    (start.after events).raw? key scope = none := by
  obtain ⟨before, time, rest, rfl, -, gone⟩ := swept
  have last := gone rest.length
  rwa [List.take_length] at last

/-- A variable is swept away by the last event, or it was before and has not come back. -/
theorem sweptAway_concat_iff (event : StoreEvent) :
    start.SweptAway (events ++ [event]) key scope ↔
      (start.SweptAway events key scope ∧
          ((start.after events).step event).raw? key scope = none) ∨
        (start.after events).Sweeps event key scope := by
  rw [← after_concat]
  constructor
  · intro swept
    have gone := swept.gone
    obtain ⟨before, time, rest, split, held, absent⟩ := swept
    cases rest using List.reverseRecOn with
    | nil =>
      obtain ⟨rfl, last⟩ := List.append_inj' split rfl
      cases last
      exact .inr ⟨rfl, held⟩
    | append_singleton rest last =>
      rw [← List.cons_append, ← List.append_assoc] at split
      obtain ⟨rfl, -⟩ := List.append_inj' split rfl
      refine .inl ⟨⟨before, time, rest, rfl, held, fun n => ?_⟩, gone⟩
      by_cases inside : n ≤ rest.length
      · have earlier := absent n
        rwa [List.take_append_of_le_length inside] at earlier
      · have whole := absent rest.length
        rw [List.take_left] at whole
        rwa [List.take_of_length_le (by omega)]
  · rintro (⟨⟨before, time, rest, rfl, held, absent⟩, gone⟩ | ⟨clears, held⟩)
    · refine ⟨before, time, rest ++ [event], by simp, held, fun n => ?_⟩
      by_cases inside : n ≤ rest.length
      · rw [List.take_append_of_le_length inside]
        exact absent n
      · rw [List.take_of_length_le (by simp; omega)]
        simpa using gone
    · obtain ⟨time, operation⟩ := event
      obtain rfl : operation = .clearScope scope := clears
      refine ⟨events, time, [], rfl, held, fun n => ?_⟩
      rw [List.take_nil, after_concat]
      have entered : (start.after events).Entered ⟨time, .clearScope scope⟩ key scope :=
        entered_clearScope time scope
      cases entered with
      | silent _ _ kept => exact absurd ⟨rfl, held⟩ kept
      | recorded _ _ kept => exact absurd ⟨rfl, held⟩ kept
      | swept gone _ _ => exact gone

/-- The history is right about a variable exactly if it was not swept away. Whatever else is done to a
store, and in whatever order, its newest changes tell what it shows. -/
theorem faithful_iff_not_sweptAway {limit depth : Nat} {now : Instant}
    (room : (empty limit depth now).HasRoom events key) (scope : Scope) :
    ((empty limit depth now).after events).Faithful key scope ↔
      ¬(empty limit depth now).SweptAway events key scope := by
  induction events using List.reverseRecOn with
  | nil =>
    refine ⟨fun _ swept => ?_, fun _ => ?_⟩
    · obtain ⟨before, time, rest, split, -⟩ := swept
      simp at split
    · cases scope <;> rintro _ ⟨⟩
  | append_singleton events event ih =>
    obtain ⟨earlier, space⟩ := room.of_concat
    rw [sweptAway_concat_iff, after_concat]
    exact (entered space event).faithful_iff SweptAway.gone (ih earlier)

/-- A variable is set, switched off and swept away; the history still tells its value. -/
theorem faithful_iff_not_sweptAway_cleared :
    let start := empty 2 5 ⟨0⟩
    let events : List StoreEvent := [⟨⟨1⟩, .set "token" "abc" .environment⟩,
      ⟨⟨2⟩, .setEnabled "token" .environment false⟩, ⟨⟨3⟩, .clearScope .environment⟩]
    start.HasRoom events "token" ∧ start.SweptAway events "token" .environment ∧
      ¬(start.after events).Faithful "token" .environment := by
  intro start events
  have room : start.HasRoom events "token" := by
    unfold HasRoom
    decide
  have swept : start.SweptAway events "token" .environment := by
    refine ⟨events.take 2, ⟨3⟩, [], rfl, by decide, fun n => ?_⟩
    rw [List.take_nil]
    decide
  exact ⟨room, swept, fun right => (faithful_iff_not_sweptAway room .environment).mp right swept⟩

end Store
end ApiProbe
