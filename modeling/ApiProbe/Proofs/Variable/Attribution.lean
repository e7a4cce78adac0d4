import ApiProbe.Sandbox
import ApiProbe.Proofs.Machine.Keeping
import ApiProbe.Proofs.Variable.Confinement
import ApiProbe.Proofs.Variable.Log
import ApiProbe.Proofs.Variable.Operation

/-!
To whom changes are attributed. A handle writes under its own name, whether it is used directly or
by a script; what it removes goes to the history as a manual change, whoever removed it. So the
history names the right source for all that a handle does unless it removes a variable.
-/
namespace ApiProbe

namespace History

/-- A history that keeps at least one change of a variable and has given out all of its numbers. -/
structure Numbered (history : History) : Prop where
  room : 0 < history.limit
  bounded : ∀ change ∈ history.everything, change.sequence ≤ history.last

/-- The kept changes with a higher number than that one. -/
def newerThan (history : History) (number : Nat) : List Change :=
  history.everything.filter fun change => number < change.sequence

variable {history : History}

theorem mem_newerThan {number : Nat} {change : Change} :
    change ∈ history.newerThan number ↔ change ∈ history.everything ∧ number < change.sequence := by
  rw [newerThan, List.mem_filter, decide_eq_true_iff]

theorem Numbered.none_newer (numbered : history.Numbered) : history.newerThan history.last = [] := by
  refine List.eq_nil_iff_forall_not_mem.mpr fun change member => ?_
  obtain ⟨kept, newer⟩ := mem_newerThan.mp member
  exact absurd (numbered.bounded change kept) (Nat.not_le.mpr newer)

theorem numbered_empty (limit : Nat) (now : Instant) : (empty limit now).Numbered where
  room := Nat.lt_of_lt_of_le Nat.zero_lt_one (Nat.le_max_right limit 1)
  bounded change member := by
    obtain ⟨trail, present, -⟩ := (mem_everything _ change).mp member
    cases present

/-- What a history holds after a change is that change and some of what it held before. -/
theorem mem_everything_of_record {name : String} {old new : Option String} {scope : Scope}
    {source : ChangeSource} {change : Change}
    (member : change ∈ (history.record name old new scope source).everything) :
    change = ⟨history.last + 1, name, old, new, scope, source, history.now⟩ ∨
      change ∈ history.everything := by
  obtain ⟨trail, present, inside⟩ := (mem_everything _ change).mp member
  rcases Table.mem_values_insert present with same | before
  · subst same
    rcases List.mem_cons.mp (List.mem_of_mem_take inside) with latest | older
    · exact .inl latest
    · exact .inr (trail_subset_everything older)
  · exact .inr ((mem_everything history change).mpr ⟨trail, before, inside⟩)

theorem mem_everything_record_self (numbered : history.Numbered) (name : String)
    (old new : Option String) (scope : Scope) (source : ChangeSource) :
    (⟨history.last + 1, name, old, new, scope, source, history.now⟩ : Change) ∈
      (history.record name old new scope source).everything := by
  refine (mem_everything _ _).mpr ⟨_, Table.mem_values_of_find? (Table.find?_insert_self ..), ?_⟩
  obtain ⟨limit, positive⟩ := Nat.exists_eq_succ_of_ne_zero (Nat.ne_of_gt numbered.room)
  rw [positive, List.take_succ_cons]
  exact List.mem_cons_self

theorem Numbered.record (numbered : history.Numbered) (name : String) (old new : Option String)
    (scope : Scope) (source : ChangeSource) :
    (history.record name old new scope source).Numbered where
  room := numbered.room
  bounded change member := by
    rcases mem_everything_of_record member with rfl | before
    · exact Nat.le_refl _
    · exact Nat.le_succ_of_le (numbered.bounded change before)

theorem Numbered.clear (numbered : history.Numbered) (name : Option String) :
    (history.clear name).Numbered := by
  refine ⟨by cases name <;> exact numbered.room, fun change member => ?_⟩
  obtain ⟨trail, present, inside⟩ := (mem_everything _ change).mp member
  cases name with
  | none => cases present
  | some name =>
    obtain ⟨entry, kept, rfl⟩ := List.mem_map.mp present
    exact numbered.bounded change ((mem_everything history change).mpr
      ⟨entry.2, List.mem_map_of_mem (List.mem_filter.mp kept).1, inside⟩)

/-- Every history that recording and clearing lead to is numbered. -/
theorem numbered_after (limit : Nat) (now : Instant) (events : List HistoryEvent) :
    ((empty limit now).after events).Numbered := by
  induction events using List.reverseRecOn with
  | nil => exact numbered_empty limit now
  | append_singleton events event ih =>
    rw [after, List.foldl_append]
    have before : { (empty limit now).after events with now := event.time }.Numbered :=
      ⟨ih.room, ih.bounded⟩
    obtain ⟨time, operation⟩ := event
    cases operation with
    | record name old new scope source => exact before.record name old new scope source
    | clear name => exact before.clear name

/-- The one change with a new number is the one that was recorded. -/
theorem Numbered.mem_newerThan_record (numbered : history.Numbered) {name : String}
    {old new : Option String} {scope : Scope} {source : ChangeSource} {change : Change} :
    change ∈ (history.record name old new scope source).newerThan history.last ↔
      change = ⟨history.last + 1, name, old, new, scope, source, history.now⟩ := by
  rw [mem_newerThan]
  constructor
  · rintro ⟨kept, newer⟩
    rcases mem_everything_of_record kept with latest | before
    · exact latest
    · exact absurd (numbered.bounded change before) (Nat.not_le.mpr newer)
  · rintro rfl
    exact ⟨mem_everything_record_self numbered name old new scope source, Nat.lt_succ_self _⟩

end History

/-- A call that sets or unsets a variable: on a handle itself, or by a script, in whatever state it
is, on one of the objects of variables that it finds. -/
inductive HandleCall
  | set (key value : String) (scope : Scope)
  | unset (key : String) (scope : Scope)
  | scriptSet (state : Machine.State Handle) (reads : Option Scope) (writes : Scope) (key : String)
    (value : Machine.Value)
  | scriptUnset (state : Machine.State Handle) (reads : Option Scope) (writes : Scope)
    (key : String)

namespace HandleCall

/-- The variable that a call unsets. -/
def unsets? : HandleCall → Option (String × Scope)
  | .unset key scope | .scriptUnset _ _ scope key => some (key, scope)
  | .set .. | .scriptSet .. => none

end HandleCall

/-- A call and the time at which it is made. -/
structure HandleEvent where
  time : Instant
  call : HandleCall

namespace Handle
open Machine

/-- The handle that an attempt leaves: the new one, or the old one if it was refused. -/
def settle {ε : Type} (handle : Handle) : Except ε Handle → Handle
  | .ok after => after
  | .error _ => handle

/-- The handle after a script has called a function with its arguments. -/
def afterCall (setup : Setup Handle) (handle : Handle) (state : Machine.State Handle)
    (name : String) (args : List Value) : Handle :=
  (Run.left ((Probe.call? setup name args).getD (pure .unit)) { state with vars := handle }).vars

def perform (setup : Setup Handle) (handle : Handle) : HandleCall → Handle
  | .set key value scope => handle.settle (handle.set key value scope)
  | .unset key scope => handle.settle ((handle.unset key scope).map Prod.snd)
  | .scriptSet state reads writes key value =>
    handle.afterCall setup state "set" [.host (.vars reads writes), .str key, value]
  | .scriptUnset state reads writes key =>
    handle.afterCall setup state "unset" [.host (.vars reads writes), .str key]

/-- The handle with the clock of its store put to a time. -/
def at_ (handle : Handle) (time : Instant) : Handle :=
  { handle with store := handle.store.at_ time }

def step (setup : Setup Handle) (handle : Handle) (event : HandleEvent) : Handle :=
  (handle.at_ event.time).perform setup event.call

def after (setup : Setup Handle) (handle : Handle) (events : List HandleEvent) : Handle :=
  events.foldl (step setup) handle

/-- All changes that calls enter into the history, in the order of the calls. -/
def entered (setup : Setup Handle) (handle : Handle) : List HandleEvent → List Change
  | [] => []
  | event :: rest =>
    let next := handle.step setup event
    next.store.history.newerThan handle.store.history.last ++ entered setup next rest

/-- The call unsets a variable that is there and may be unset. -/
def Removes (handle : Handle) (call : HandleCall) : Prop :=
  ∃ key scope, call.unsets? = some (key, scope) ∧ handle.canWrite scope = true ∧
    handle.store.raw? key scope ≠ none

/-- What a call means for the history. -/
inductive Noted (handle after : Handle) (call : HandleCall) : Prop
  /-- Nothing is changed. -/
  | silent (same : after.store.history = handle.store.history) (keeps : ¬handle.Removes call)
  /-- A value is set, in the name of the handle. -/
  | value (key : String) (old : Option String) (shown : String) (scope : Scope)
      (told : after.store.history =
        handle.store.history.record key old (some shown) scope handle.access.source)
      (keeps : ¬handle.Removes call)
  /-- A variable is removed, as if by hand. -/
  | removal (key : String) (old : Option String) (scope : Scope)
      (told : after.store.history = handle.store.history.record key old none scope .manual)
      (removes : handle.Removes call)

variable {setup : Setup Handle} {handle after : Handle}

theorem noted_set {call : HandleCall} (keeps : ¬handle.Removes call) (key value : String)
    (scope : Scope) : handle.Noted (handle.settle (handle.set key value scope)) call := by
  unfold Handle.set Access.set Store.write
  cases handle.access.canWrite scope with
  | false => exact .silent rfl keeps
  | true =>
    simp only [↓reduceIte, bind, Except.bind]
    cases Key.check key with
    | error error => exact .silent rfl keeps
    | ok _ => exact .value _ _ _ _ rfl keeps

theorem noted_unset {call : HandleCall} {key : String} {scope : Scope}
    (unsets : call.unsets? = some (key, scope)) :
    handle.Noted (handle.settle ((handle.unset key scope).map Prod.snd)) call := by
  have removes_iff : handle.Removes call ↔
      handle.canWrite scope = true ∧ handle.store.raw? key scope ≠ none := by
    unfold Removes
    rw [unsets]
    constructor
    · rintro ⟨_, _, ⟨⟩, may⟩
      exact may
    · exact fun may => ⟨key, scope, rfl, may⟩
  unfold Handle.unset Access.unset Store.delete
  cases opened : handle.access.canWrite scope with
  | false =>
    refine .silent rfl fun removes => ?_
    have closed : handle.canWrite scope = false := opened
    rw [closed] at removes_iff
    cases (removes_iff.mp removes).1
  | true =>
    cases found : handle.store.raw? key scope with
    | none => exact .silent rfl fun removes => (removes_iff.mp removes).2 found
    | some v =>
      exact .removal _ _ _ rfl (removes_iff.mpr ⟨opened, by simp [found]⟩)

section Script
variable (settings : Settings) (request : Http.Request) (response : Option Http.Response)

/-- What a script sets goes by the handle that it runs with. -/
theorem afterCall_set (handle : Handle) (state : Machine.State Handle) (reads : Option Scope)
    (writes : Scope) (key : String) (value : Value) :
    handle.afterCall (Sandbox.setup settings (Sandbox.world settings request response)) state "set"
        [.host (.vars reads writes), .str key, value] =
      handle.settle (handle.set key value.stored writes) := by
  have called : Probe.call? (Sandbox.setup settings (Sandbox.world settings request response)) "set"
      [.host (.vars reads writes), .str key, value] =
      some (Probe.write _ key value writes) := rfl
  have begun (run : Machine.State Handle → Run Handle Value) (state : Machine.State Handle) :
      Run.left (get >>= run) state = Run.left (run state) state := rfl
  rw [afterCall, called, Option.getD_some, Probe.write, begun]
  simp only [Sandbox.setup, Sandbox.world]
  cases handle.set key value.stored writes <;> rfl

/-- What a script unsets goes by the handle that it runs with. -/
theorem afterCall_unset (handle : Handle) (state : Machine.State Handle) (reads : Option Scope)
    (writes : Scope) (key : String) :
    handle.afterCall (Sandbox.setup settings (Sandbox.world settings request response)) state
        "unset" [.host (.vars reads writes), .str key] =
      handle.settle ((handle.unset key writes).map Prod.snd) := by
  have called : Probe.call? (Sandbox.setup settings (Sandbox.world settings request response))
      "unset" [.host (.vars reads writes), .str key] = some (Probe.erase _ key writes) := rfl
  have begun (run : Machine.State Handle → Run Handle Value) (state : Machine.State Handle) :
      Run.left (get >>= run) state = Run.left (run state) state := rfl
  rw [afterCall, called, Option.getD_some, Probe.erase, begun]
  simp only [Sandbox.setup, Sandbox.world]
  cases handle.unset key writes <;> rfl

/-- Every call is told in the history or means nothing to it. -/
theorem noted (handle : Handle) (call : HandleCall) :
    handle.Noted (handle.perform
      (Sandbox.setup settings (Sandbox.world settings request response)) call) call := by
  have sets {call : HandleCall} (none_ : call.unsets? = none) : ¬handle.Removes call := by
    rintro ⟨key, scope, unsets, -⟩
    rw [none_] at unsets
    cases unsets
  cases call with
  | set key value scope => exact noted_set (sets rfl) key value scope
  | unset key scope => exact noted_unset rfl
  | scriptSet state reads writes key value =>
    rw [perform, afterCall_set]
    exact noted_set (sets rfl) key value.stored writes
  | scriptUnset state reads writes key =>
    rw [perform, afterCall_unset]
    exact noted_unset rfl

theorem perform_access (handle : Handle) (call : HandleCall) :
    (handle.perform
      (Sandbox.setup settings (Sandbox.world settings request response)) call).access =
      handle.access := by
  have sets (key value : String) (scope : Scope) :
      (handle.settle (handle.set key value scope)).access = handle.access := by
    unfold Handle.set
    cases handle.access.set handle.store key value scope <;> rfl
  have unsets (key : String) (scope : Scope) :
      (handle.settle ((handle.unset key scope).map Prod.snd)).access = handle.access := by
    unfold Handle.unset
    cases handle.access.unset handle.store key scope <;> rfl
  cases call with
  | set key value scope => exact sets key value scope
  | unset key scope => exact unsets key scope
  | scriptSet state reads writes key value =>
    rw [perform, afterCall_set]
    exact sets key value.stored writes
  | scriptUnset state reads writes key =>
    rw [perform, afterCall_unset]
    exact unsets key writes

end Script

/-- The source that a change is entered under: that of the handle if a value was set, and `manual`
if a variable was removed. -/
def sourceOf (handle : Handle) (change : Change) : ChangeSource :=
  if change.new.isSome then handle.access.source else .manual

theorem Noted.numbered {call : HandleCall} (noted : handle.Noted after call)
    (numbered : handle.store.history.Numbered) : after.store.history.Numbered := by
  cases noted with
  | silent same => rwa [same]
  | value key old shown scope told => rw [told]; exact numbered.record ..
  | removal key old scope told => rw [told]; exact numbered.record ..

theorem Noted.attributed {call : HandleCall} (noted : handle.Noted after call)
    (numbered : handle.store.history.Numbered) :
    ∀ change ∈ after.store.history.newerThan handle.store.history.last,
      change.source = handle.sourceOf change := by
  intro change member
  cases noted with
  | silent same =>
    rw [same, numbered.none_newer] at member
    cases member
  | value key old shown scope told =>
    rw [told, numbered.mem_newerThan_record] at member
    rw [member]
    rfl
  | removal key old scope told =>
    rw [told, numbered.mem_newerThan_record] at member
    rw [member]
    rfl

/-- A change without a new value is entered exactly if a variable is removed. -/
theorem Noted.tells_removal_iff {call : HandleCall} (noted : handle.Noted after call)
    (numbered : handle.store.history.Numbered) :
    (∃ change ∈ after.store.history.newerThan handle.store.history.last, change.new = none) ↔
      handle.Removes call := by
  cases noted with
  | silent same keeps =>
    rw [same, numbered.none_newer]
    simpa using keeps
  | value key old shown scope told keeps =>
    refine ⟨fun ⟨change, member, removed⟩ => ?_, fun removes => absurd removes keeps⟩
    rw [told, numbered.mem_newerThan_record] at member
    rw [member] at removed
    cases removed
  | removal key old scope told removes =>
    refine ⟨fun _ => removes, fun _ => ?_⟩
    rw [told]
    exact ⟨_, numbered.mem_newerThan_record.mpr rfl, rfl⟩

/-- One of the calls removes a variable. -/
def RemovesSome (setup : Setup Handle) (handle : Handle) (events : List HandleEvent) : Prop :=
  ∃ before event rest, events = before ++ event :: rest ∧
    (handle.after setup before).Removes event.call

theorem removesSome_cons_iff (event : HandleEvent) (rest : List HandleEvent) :
    handle.RemovesSome setup (event :: rest) ↔
      handle.Removes event.call ∨ (handle.step setup event).RemovesSome setup rest := by
  constructor
  · rintro ⟨before, removing, later, split, removes⟩
    cases before with
    | nil =>
      cases split
      exact .inl removes
    | cons first before =>
      cases split
      exact .inr ⟨before, removing, later, rfl, removes⟩
  · rintro (removes | ⟨before, removing, later, rfl, removes⟩)
    · exact ⟨[], event, rest, rfl, removes⟩
    · exact ⟨event :: before, removing, later, rfl, removes⟩

section Script
variable (settings : Settings) (request : Http.Request) (response : Option Http.Response)

/-- What calls enter: every change under its source, and changes without a new value exactly if one
of the calls removes a variable. -/
theorem entered_attributed (numbered : handle.store.history.Numbered) (events : List HandleEvent) :
    let setup := Sandbox.setup settings (Sandbox.world settings request response)
    (∀ change ∈ handle.entered setup events, change.source = handle.sourceOf change) ∧
      ((∃ change ∈ handle.entered setup events, change.new = none) ↔
        handle.RemovesSome setup events) := by
  intro setup
  induction events generalizing handle with
  | nil =>
    refine ⟨fun change member => (by cases member), ?_, ?_⟩
    · rintro ⟨change, member, -⟩
      cases member
    · rintro ⟨before, event, rest, split, -⟩
      cases before <;> cases split
  | cons event rest ih =>
    have start : (handle.at_ event.time).store.history.Numbered := ⟨numbered.room, numbered.bounded⟩
    have told := noted settings request response (handle.at_ event.time) event.call
    have access : (handle.step setup event).access = handle.access :=
      perform_access settings request response (handle.at_ event.time) event.call
    have later := @ih (handle.step setup event) (told.numbered start)
    have same (change : Change) :
        (handle.step setup event).sourceOf change = handle.sourceOf change := by
      rw [sourceOf, access, sourceOf]
    constructor
    · intro change member
      rcases List.mem_append.mp member with now | after
      · exact told.attributed start change now
      · rw [later.1 change after, same]
    · rw [removesSome_cons_iff, ← later.2]
      have first := told.tells_removal_iff start
      constructor
      · rintro ⟨change, member, removed⟩
        rcases List.mem_append.mp member with now | after
        · exact .inl (first.mp ⟨change, now, removed⟩)
        · exact .inr ⟨change, after, removed⟩
      · rintro (removes | ⟨change, after, removed⟩)
        · obtain ⟨change, now, removed⟩ := first.mpr removes
          exact ⟨change, List.mem_append_left _ now, removed⟩
        · exact ⟨change, List.mem_append_right _ after, removed⟩

/-- All that a sequence of calls enters into the history carries the source of the handle exactly
if that source is `manual` anyway or none of the calls removes a variable. Values are always entered
under the source of the handle, removals never under any but `manual`. -/
theorem attributed_iff_no_removal (numbered : handle.store.history.Numbered)
    (events : List HandleEvent) :
    let setup := Sandbox.setup settings (Sandbox.world settings request response)
    (∀ change ∈ handle.entered setup events,
        change.source = if change.new.isSome then handle.access.source else .manual) ∧
      ((∀ change ∈ handle.entered setup events, change.source = handle.access.source) ↔
        handle.access.source = .manual ∨ ¬handle.RemovesSome setup events) := by
  intro setup
  obtain ⟨sources, removals⟩ := entered_attributed settings request response numbered events
  refine ⟨sources, fun attributed => ?_, fun harmless change member => ?_⟩
  · by_cases removes : handle.RemovesSome setup events
    · obtain ⟨change, member, removed⟩ := removals.mpr removes
      left
      rw [← attributed change member, sources change member, sourceOf, removed]
      rfl
    · exact .inr removes
  · rw [sources change member, sourceOf]
    split
    · rfl
    · rename_i absent
      rcases harmless with manual | none_
      · exact manual.symm
      · exact absurd (removals.mp ⟨change, member, by simpa using absent⟩) none_

/-- A script sets a variable and takes it away; the removal is entered as a manual change. -/
theorem attributed_iff_no_removal_script :
    let request : Http.Request := ⟨.get, "http://localhost", [], none⟩
    let setup := Sandbox.setup .default (Sandbox.world .default request none)
    let handle : Handle := ⟨.empty 10 5 ⟨0⟩, .full .script⟩
    let events : List HandleEvent :=
      [⟨⟨1⟩, .scriptSet (.initial handle) (some .environment) .environment "a" (.int 1)⟩,
        ⟨⟨2⟩, .scriptUnset (.initial handle) (some .environment) .environment "a"⟩]
    handle.store.history.Numbered ∧ handle.RemovesSome setup events ∧
      ¬∀ change ∈ handle.entered setup events, change.source = handle.access.source := by
  intro request setup handle events
  have numbered : handle.store.history.Numbered := History.numbered_empty 10 ⟨0⟩
  have removes : handle.RemovesSome setup events := by
    refine ⟨events.take 1, _, [], rfl, "a", .environment, rfl, rfl, ?_⟩
    decide
  refine ⟨numbered, removes, fun attributed => ?_⟩
  rcases (attributed_iff_no_removal _ _ _ numbered events).2.mp attributed with manual | none_
  · cases manual
  · exact none_ removes

end Script
end Handle
end ApiProbe
