import Mathlib.Tactic.SplitIfs
import ApiProbe.Machine.State

/-!
Runs that keep an invariant. What counts is the state that a run leaves, whether it ends in a value,
a failure or an abort, so nothing that stops, catches or goes on can make a difference. An invariant
speaks of what a script does outside of itself; its own variables and counters do not matter to it.
-/
namespace ApiProbe.Machine

variable {σ α β : Type}

/-- The state that a run leaves, whatever comes of it. -/
def Run.left (run : Run σ α) (state : State σ) : State σ :=
  match run state with
  | .ok _ after | .error _ after => after

theorem Run.left_bind_pure (run : Run σ α) (f : α → β) (state : State σ) :
    (run >>= fun value => pure (f value)).left state = run.left state := by
  simp only [left, bind, EStateM.bind]
  cases run state <;> rfl

def Run.Keeps (holds : State σ → Prop) (run : Run σ α) : Prop :=
  ∀ state, holds state → holds (run.left state)

/-- A property that all a script can do preserves: its inner life does not matter to it, nor do
single lines, test results and changes of variables. Extracted values need to be kept only where
the world allows to write. -/
structure Invariant (setup : Setup σ) (holds : State σ → Prop) : Prop where
  inner : ∀ state operations ticks cells frame, holds state →
    holds { state with operations, ticks, cells, frame }
  print : ∀ state line, holds state → holds { state with log := state.log.add setup.maxLines line }
  report : ∀ state test, holds state → holds { state with tests := test :: state.tests }
  write : ∀ state key value scope vars, holds state →
    setup.world.write state.vars key value scope = .ok vars → holds { state with vars }
  erase : ∀ state key scope found vars, holds state →
    setup.world.erase state.vars key scope = .ok (found, vars) → holds { state with vars }
  keep : ∀ state key value scope vars, holds state → setup.world.canWrite state.vars scope = true →
    setup.world.keep state.vars key value scope = .ok vars → holds { state with vars }

namespace Run.Keeps
variable {holds : State σ → Prop}

theorem pure (value : α) : Keeps holds (Pure.pure value : Run σ α) := fun _ valid => valid

theorem throw (signal : Signal) : Keeps holds (MonadExcept.throw signal : Run σ α) :=
  fun _ valid => valid

theorem get : Keeps holds (MonadState.get : Run σ (State σ)) := fun _ valid => valid

theorem after_ok {run : Run σ α} (kept : run.Keeps holds) {state after : State σ} {value : α}
    (valid : holds state) (outcome : run state = .ok value after) : holds after := by
  have later := kept state valid
  rw [left, outcome] at later
  exact later

theorem after_error {run : Run σ α} (kept : run.Keeps holds) {state after : State σ}
    {signal : Signal} (valid : holds state) (outcome : run state = .error signal after) :
    holds after := by
  have later := kept state valid
  rw [left, outcome] at later
  exact later

/-- A run that leaves the same states as another one, and gives them another outcome. -/
theorem relabel {run : Run σ α} {other : Run σ β} (kept : run.Keeps holds)
    (same : ∀ state, other.left state = run.left state) : other.Keeps holds := by
  intro state valid
  rw [same state]
  exact kept state valid

theorem bind {first : Run σ α} {next : α → Run σ β} (before : first.Keeps holds)
    (later : ∀ value, (next value).Keeps holds) : Keeps holds (first >>= next) := by
  intro state valid
  simp only [left, Bind.bind, EStateM.bind]
  cases outcome : first state with
  | ok value after => exact later value after (before.after_ok valid outcome)
  | error signal after => exact before.after_error valid outcome

/-- A run that looks at its state first: what comes then starts from that very state. -/
theorem inspect {next : State σ → Run σ α}
    (kept : ∀ state, holds state → holds ((next state).left state)) :
    Keeps holds (MonadState.get >>= next) := kept

theorem map {run : Run σ α} (f : α → β) (kept : run.Keeps holds) : Keeps holds (f <$> run) :=
  kept.bind fun _ => .pure _

theorem ite {condition : Prop} [Decidable condition] {yes no : Run σ α} (first : yes.Keeps holds)
    (second : no.Keeps holds) : Keeps holds (if condition then yes else no) := by
  split
  · exact first
  · exact second

theorem mapM {f : α → Run σ β} (kept : ∀ item, (f item).Keeps holds) (items : List α) :
    Keeps holds (items.mapM f) := by
  induction items with
  | nil => exact .pure _
  | cons item rest ih =>
    rw [List.mapM_cons]
    exact (kept item).bind fun _ => ih.bind fun _ => .pure _

theorem forM {f : α → Run σ PUnit} (kept : ∀ item, (f item).Keeps holds) (items : List α) :
    Keeps holds (items.forM f) := by
  induction items with
  | nil => exact .pure _
  | cons item rest ih =>
    exact (kept item).bind fun _ => ih

theorem foldlM {f : β → α → Run σ β} (kept : ∀ value item, (f value item).Keeps holds)
    (items : List α) (value : β) : Keeps holds (items.foldlM f value) := by
  induction items generalizing value with
  | nil => exact .pure _
  | cons item rest ih =>
    rw [List.foldlM_cons]
    exact (kept value item).bind ih

theorem filterM {f : α → Run σ Bool} (kept : ∀ item, (f item).Keeps holds) (items : List α) :
    Keeps holds (items.filterM f) := by
  suffices kept : ∀ (rest : List α) (chosen : List α), Keeps holds (rest.filterAuxM f chosen) from
    (kept items []).bind fun _ => .pure _
  intro rest
  induction rest with
  | nil => exact fun _ => .pure _
  | cons item rest ih =>
    intro chosen
    rw [List.filterAuxM]
    exact (kept item).bind fun _ => ih _

theorem findM? {f : α → Run σ Bool} (kept : ∀ item, (f item).Keeps holds) (items : List α) :
    Keeps holds (items.findM? f) := by
  induction items with
  | nil => exact .pure _
  | cons item rest ih =>
    rw [List.findM?]
    exact (kept item).bind fun found => by
      cases found
      · exact ih
      · exact .pure _

theorem anyM {f : α → Run σ Bool} (kept : ∀ item, (f item).Keeps holds) (items : List α) :
    Keeps holds (items.anyM f) := by
  induction items with
  | nil => exact .pure _
  | cons item rest ih =>
    rw [List.anyM]
    exact (kept item).bind fun found => by
      cases found
      · exact ih
      · exact .pure _

theorem allM {f : α → Run σ Bool} (kept : ∀ item, (f item).Keeps holds) (items : List α) :
    Keeps holds (items.allM f) := by
  induction items with
  | nil => exact .pure _
  | cons item rest ih =>
    rw [List.allM]
    exact (kept item).bind fun found => by
      cases found
      · exact .pure _
      · exact ih

end Run.Keeps

namespace Run
variable {setup : Setup σ} {holds : State σ → Prop} {run : Run σ α}

theorem fail_keeps (fault : Fault) : Keeps holds (fail fault : Run σ α) := .throw _

theorem failAt_keeps (place : Plain.Position) (fault : Fault) :
    Keeps holds (failAt place fault : Run σ α) := .throw _

theorem ofExcept_keeps (outcome : Except Fault α) : Keeps holds (ofExcept outcome : Run σ α) := by
  cases outcome with
  | ok value => exact .pure value
  | error fault => exact fail_keeps fault

theorem Keeps.located (place : Plain.Position) (kept : run.Keeps holds) :
    Keeps holds (located place run) :=
  kept.relabel fun state => by
    unfold left Run.located
    cases run state with
    | ok value after => rfl
    | error signal after => cases signal <;> rfl

theorem tick_keeps (invariant : Invariant setup holds) (place : Plain.Position) :
    Keeps holds (tick setup place) := by
  intro state valid
  have counted := invariant.inner state (state.operations + 1) (state.ticks + 1) state.cells
    state.frame valid
  simp only [left, tick]
  split
  · rename_i outcome
    split_ifs at outcome
    cases outcome
    exact counted
  · rename_i outcome
    split_ifs at outcome <;> cases outcome <;> exact counted

theorem Keeps.restoring (invariant : Invariant setup holds) (restore : Frame → Frame → Frame)
    (kept : run.Keeps holds) : Keeps holds (restoring restore run) := by
  intro state valid
  simp only [left, Run.restoring]
  cases outcome : run state with
  | ok value after =>
    exact invariant.inner after after.operations after.ticks after.cells _
      (kept.after_ok valid outcome)
  | error signal after =>
    exact invariant.inner after after.operations after.ticks after.cells _
      (kept.after_error valid outcome)

theorem Keeps.inBlock (invariant : Invariant setup holds) (kept : run.Keeps holds) :
    Keeps holds (inBlock run) :=
  kept.restoring invariant _

theorem modify_keeps {change : State σ → State σ}
    (preserves : ∀ state, holds state → holds (change state)) :
    Keeps holds (modify change : Run σ PUnit) := preserves

theorem Keeps.inFrame (invariant : Invariant setup holds) (frame : Frame)
    (kept : run.Keeps holds) : Keeps holds (inFrame frame run) := by
  refine Keeps.restoring invariant _ (Keeps.bind (modify_keeps fun state valid => ?_) fun _ =>
    kept.bind fun _ => .bind .get fun _ => .pure _)
  exact invariant.inner state state.operations state.ticks state.cells frame valid

theorem Keeps.fromOutside (invariant : Invariant setup holds) (kept : run.Keeps holds) :
    Keeps holds (fromOutside run) := by
  intro state valid
  have entered := invariant.inner state state.operations state.ticks state.cells
    { state.frame with level := state.frame.level + 1 } valid
  simp only [left, Run.fromOutside]
  cases outcome : run { state with frame := { state.frame with level := state.frame.level + 1 } } with
  | ok value after =>
    exact invariant.inner after _ after.ticks after.cells _ (kept.after_ok entered outcome)
  | error signal after =>
    exact invariant.inner after _ after.ticks after.cells _ (kept.after_error entered outcome)

theorem print_keeps (invariant : Invariant setup holds) (line : String) :
    Keeps holds (print setup line) :=
  modify_keeps fun state valid => invariant.print state line valid

theorem checkSize_keeps (place : Plain.Position) (value : Value) :
    Keeps holds (checkSize setup place value) := by
  unfold checkSize
  split
  · exact failAt_keeps place _
  · exact .pure _

theorem readSlot_keeps (slot : Slot Value) : Keeps holds (readSlot slot : Run σ Value) := by
  cases slot with
  | own value => exact .pure value
  | shared cell => exact .bind .get fun _ => .pure _

theorem slot?_keeps (name : String) : Keeps holds (slot? name : Run σ (Option (Slot Value))) :=
  .bind .get fun _ => .pure _

theorem replaceSlot_keeps (invariant : Invariant setup holds) (name : String)
    (slot : Slot Value) : Keeps holds (replaceSlot name slot : Run σ Unit) :=
  modify_keeps fun state valid => invariant.inner state _ _ _ _ valid

theorem declare_keeps (invariant : Invariant setup holds) (name : String) (value : Value) :
    Keeps holds (declare name value : Run σ Unit) :=
  modify_keeps fun state valid => invariant.inner state _ _ _ _ valid

theorem lookUp_keeps (setup : Setup σ) (name : String) (place : Plain.Position) :
    Keeps holds (lookUp setup name place : Run σ Value) := by
  refine (slot?_keeps name).bind fun slot => ?_
  cases slot with
  | some slot => exact readSlot_keeps slot
  | none =>
    simp only
    split
    · exact .pure _
    · exact failAt_keeps place _

theorem update_keeps (invariant : Invariant setup holds) (name : String) (value : Value) :
    Keeps holds (update name value : Run σ Bool) := by
  refine (slot?_keeps name).bind fun slot => ?_
  rcases slot with _ | _ | cell
  · exact .pure _
  · exact (replaceSlot_keeps invariant name _).bind fun _ => .pure _
  · refine Keeps.bind (modify_keeps fun state valid => ?_) fun _ => .pure _
    exact invariant.inner state _ _ _ _ valid

theorem store_keeps (invariant : Invariant setup holds) (name : String) (value : Value)
    (place : Plain.Position) : Keeps holds (store setup name value place : Run σ Unit) := by
  refine (update_keeps invariant name value).bind fun found => ?_
  split
  · split <;> exact failAt_keeps place _
  · exact .pure _

theorem receiver_keeps (place : Plain.Position) :
    Keeps holds (receiver place : Run σ Value) := by
  refine Keeps.get.bind fun state => ?_
  split
  · exact .pure _
  · exact failAt_keeps place _

theorem setReceiver_keeps (invariant : Invariant setup holds) (value : Value) :
    Keeps holds (setReceiver value : Run σ Unit) :=
  modify_keeps fun state valid => invariant.inner state _ _ _ _ valid

theorem share_keeps (invariant : Invariant setup holds) (name : String)
    (place : Plain.Position) : Keeps holds (share name place : Run σ (Slot Value)) := by
  refine (slot?_keeps name).bind fun slot => ?_
  rcases slot with _ | value | cell
  · simp only
    split
    · exact .pure _
    · exact failAt_keeps place _
  · refine Keeps.get.bind fun state => ?_
    refine Keeps.bind (modify_keeps fun state valid => ?_) fun _ =>
      (replaceSlot_keeps invariant name _).bind fun _ => .pure _
    exact invariant.inner state _ _ _ _ valid
  · exact .pure _

end Run
end ApiProbe.Machine
