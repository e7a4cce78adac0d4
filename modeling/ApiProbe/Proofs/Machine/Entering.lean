import ApiProbe.Proofs.Machine.Execution

/-!
Runs inside runs. A run enters another one when it comes to it on its way, from whatever state it has
reached by then. What the inner run leaves stays where results only grow, and a fault that ends a
script goes through everything around the inner run: nothing else is done once it has arisen. Only a
comparison of items holds it back.
-/
namespace ApiProbe.Machine

variable {σ α β γ : Type} {setup : Setup σ}

/-- A run that does nothing but what scripts can do. -/
def Run.OfScript (setup : Setup σ) (run : Run σ α) : Prop :=
  ∀ holds, Invariant setup holds → run.Keeps holds

/-- A run that starts from a state comes to the inner run, which starts from `start`. Of what it may
do afterwards it is known that it is of a script. -/
inductive Run.Enters (setup : Setup σ) (inner : Run σ β) (start : State σ) :
    {α : Type} → Run σ α → State σ → Prop
  | here : Enters setup inner start inner start
  | first {α γ : Type} {run : Run σ α} {next : α → Run σ γ} {state : State σ}
      (inside : Enters setup inner start run state) (rest : ∀ value, (next value).OfScript setup) :
      Enters setup inner start (run >>= next) state
  | later {α γ : Type} {run : Run σ α} {next : α → Run σ γ} {state middle : State σ} {value : α}
      (done : run state = .ok value middle) (inside : Enters setup inner start (next value) middle) :
      Enters setup inner start (run >>= next) state
  | located {α : Type} {run : Run σ α} {state : State σ} (place : Plain.Position)
      (inside : Enters setup inner start run state) :
      Enters setup inner start (run.located place) state
  | restoring {α : Type} {run : Run σ α} {state : State σ} (restore : Frame → Frame → Frame)
      (inside : Enters setup inner start run state) :
      Enters setup inner start (run.restoring restore) state
  | fromOutside {α : Type} {run : Run σ α} {state : State σ}
      (inside : Enters setup inner start run
        { state with frame := { state.frame with level := state.frame.level + 1 } }) :
      Enters setup inner start run.fromOutside state
  | onePass {run : Run σ Value} {state : State σ} (inside : Enters setup inner start run state) :
      Enters setup inner start (onePass run) state
  | returned {run : Run σ Value} {state : State σ} (inside : Enters setup inner start run state) :
      Enters setup inner start (returned run) state
  | leaving {α : Type} {run : Run σ α} {state : State σ} (name : String) (place : Plain.Position)
      (inside : Enters setup inner start run state) :
      Enters setup inner start (leaving name place run) state
  | guarded {run : Run σ Value} {handler : Failure → Run σ Value} {state : State σ}
      (inside : Enters setup inner start run state)
      (rest : ∀ failure, (handler failure).OfScript setup) :
      Enters setup inner start (guarded run handler) state
  | handler {run : Run σ Value} {handler : Failure → Run σ Value} {state middle : State σ}
      {failure : Failure} (failed : run state = .error (.failure failure) middle)
      (catchable : failure.fault.isUncatchable = false)
      (inside : Enters setup inner start (handler failure) middle) :
      Enters setup inner start (guarded run handler) state
  | comparison {f : Callback σ} {a b : Value} {state : State σ}
      (inside : Enters setup inner start (f.call none [a, b]) state) :
      Enters setup inner start (f.verdict a b) state
  | test {f : Callback σ} {state : State σ} (title : String)
      (inside : Enters setup inner start (f.call none []) state) :
      Enters setup inner start (f.test title) state

/-- Two states that differ in nothing but the inner life of the script. -/
structure State.SameOutside (state other : State σ) : Prop where
  tests : other.tests = state.tests
  log : other.log = state.log
  vars : other.vars = state.vars

/-- A run fails with that fault, in a state that differs from another one in nothing but the inner
life of the script. -/
def Run.StopsAt (run : Run σ α) (state : State σ) (fault : Fault) (left : State σ) : Prop :=
  ∃ failure after, run state = .error (.failure failure) after ∧ failure.fault = fault ∧
    left.SameOutside after

/-- On the way out of an inner run there is a comparison that takes a failure for no answer. What was
done by then stays done. -/
def Run.HeldBack (setup : Setup σ) (inner : Run σ β) (start : State σ) (run : Run σ α)
    (state left : State σ) : Prop :=
  ∃ (f : Callback σ) (a b : Value) (between after : State σ),
    Run.Enters setup inner start (f.verdict a b) between ∧
    Run.Enters setup (f.verdict a b) between run state ∧
    f.verdict a b between = .ok .unit after ∧ left.SameOutside after

/-- What may be recorded later comes behind what is recorded. -/
theorem recorded_invariant (base : List TestResult) :
    Invariant setup fun state => base <:+ state.tests where
  inner _ _ _ _ _ grown := grown
  print _ _ grown := grown
  report _ _ grown := grown.trans (List.suffix_cons _ _)
  write _ _ _ _ _ grown _ := grown
  erase _ _ _ _ _ grown _ := grown
  keep _ _ _ _ _ grown _ _ := grown

theorem Run.OfScript.grows {run : Run σ α} (ofScript : run.OfScript setup) (state : State σ) :
    state.tests <:+ (run.left state).tests :=
  ofScript _ (recorded_invariant state.tests) state List.suffix_rfl

theorem Fault.isUncatchable_of_isFatal {fault : Fault} (fatal : fault.isFatal = true) :
    fault.isUncatchable = true := by
  cases fault <;> first | rfl | cases fatal

section
variable {run : Run σ α} {state after : State σ}

theorem Run.left_of_ok {value : α} (outcome : run state = .ok value after) :
    run.left state = after := by
  rw [left, outcome]

theorem Run.left_of_error {signal : Signal} (outcome : run state = .error signal after) :
    run.left state = after := by
  rw [left, outcome]

theorem suffix_of_eq {first second : State σ} (same : first = second) :
    first.tests <:+ second.tests :=
  same ▸ List.suffix_rfl

theorem Run.bind_ok {next : α → Run σ γ} {value : α} (outcome : run state = .ok value after) :
    (run >>= next) state = next value after := by
  simp only [bind, EStateM.bind, outcome]

theorem Run.bind_error {next : α → Run σ γ} {signal : Signal}
    (outcome : run state = .error signal after) : (run >>= next) state = .error signal after := by
  simp only [bind, EStateM.bind, outcome]

end

/-! ### Tests -/

namespace Callback
variable {f : Callback σ} {state after : State σ}

theorem test_of_ok {value : Value} (done : f.call none [] state = .ok value after)
    (title : String) :
    f.test title state =
      .ok (.just .unit) { after with tests := ⟨title, none⟩ :: after.tests } := by
  rw [test, done]
  rfl

theorem test_of_failure {failure : Failure}
    (failed : f.call none [] state = .error (.failure failure) after)
    (notFatal : failure.fault.isFatal = false) (title : String) :
    f.test title state = .ok (.just .unit)
      { after with tests := ⟨title, some failure.fault.message⟩ :: after.tests } := by
  simp only [test, failed, notFatal, Bool.false_eq_true, if_false]
  rfl

theorem test_of_fatal {failure : Failure}
    (failed : f.call none [] state = .error (.failure failure) after)
    (fatal : failure.fault.isFatal = true) (title : String) :
    f.test title state = .error (.failure failure) after := by
  simp only [test, failed, fatal, if_true]

end Callback

/-! ### What stays recorded -/

section
variable {state : State σ}

theorem Run.left_located (run : Run σ α) (place : Plain.Position) :
    (run.located place).left state = run.left state := by
  unfold left Run.located
  cases run state with
  | ok value after => rfl
  | error signal after => cases signal <;> rfl

theorem left_onePass (run : Run σ Value) : (onePass run).left state = run.left state := by
  unfold Run.left onePass
  cases run state with
  | ok value after => rfl
  | error signal after => cases signal <;> rfl

theorem left_returned (run : Run σ Value) : (returned run).left state = run.left state := by
  unfold Run.left returned
  cases run state with
  | ok value after => rfl
  | error signal after => cases signal <;> rfl

theorem left_leaving (run : Run σ α) (name : String) (place : Plain.Position) :
    (leaving name place run).left state = run.left state := by
  unfold Run.left leaving
  cases run state with
  | ok value after => rfl
  | error signal after => cases signal <;> rfl

theorem left_verdict (f : Callback σ) (a b : Value) :
    (f.verdict a b).left state = (f.call none [a, b]).left state := by
  unfold Run.left Callback.verdict
  cases f.call none [a, b] state with
  | ok value after => rfl
  | error signal after => cases signal <;> rfl

theorem tests_restoring (run : Run σ α) (restore : Frame → Frame → Frame) :
    ((run.restoring restore).left state).tests = (run.left state).tests := by
  unfold Run.left Run.restoring
  cases run state <;> rfl

theorem tests_fromOutside (run : Run σ α) :
    (run.fromOutside.left state).tests =
      (run.left { state with frame := { state.frame with level := state.frame.level + 1 } }).tests := by
  unfold Run.left Run.fromOutside
  dsimp only
  cases run { state with frame := { state.frame with level := state.frame.level + 1 } } <;> rfl

theorem Run.left_bind_of_ok {run : Run σ α} {next : α → Run σ γ} {value : α} {after : State σ}
    (outcome : run state = .ok value after) :
    Run.left (run >>= next) state = (next value).left after := by
  rw [left, bind_ok outcome, left]

theorem Run.tests_bind {run : Run σ α} {next : α → Run σ γ}
    (rest : ∀ value, (next value).OfScript setup) :
    (run.left state).tests <:+ (Run.left (run >>= next) state).tests := by
  cases outcome : run state with
  | ok value after =>
    rw [left_of_ok outcome, left_bind_of_ok outcome]
    exact (rest value).grows after
  | error signal after =>
    exact suffix_of_eq ((left_of_error outcome).trans (left_of_error (bind_error outcome)).symm)

/-- A handler ends in the state in which it leaves off, whatever becomes of the failure. -/
theorem left_guarded_of_error {run : Run σ Value} {handler : Failure → Run σ Value}
    {failure : Failure} {after : State σ} (failed : run state = .error (.failure failure) after)
    (catchable : failure.fault.isUncatchable = false) :
    (guarded run handler).left state = (handler failure).left after := by
  simp only [Run.left, guarded, failed, catchable, Bool.false_eq_true, if_false]
  cases handler failure after with
  | ok value later => rfl
  | error signal later =>
    cases signal with
    | failure next =>
      obtain ⟨fault, place, calls⟩ := next
      cases fault with
      | thrown value => cases value <;> rfl
      | _ => rfl
    | _ => rfl

theorem tests_guarded {run : Run σ Value} {handler : Failure → Run σ Value}
    (rest : ∀ failure, (handler failure).OfScript setup) :
    (run.left state).tests <:+ ((guarded run handler).left state).tests := by
  cases outcome : run state with
  | ok value after =>
    have same : guarded run handler state = .ok .unit after := by rw [guarded, outcome]
    exact suffix_of_eq ((Run.left_of_ok outcome).trans (Run.left_of_ok same).symm)
  | error signal after =>
    have ends := Run.left_of_error outcome
    cases signal with
    | failure failure =>
      cases catchable : failure.fault.isUncatchable with
      | true =>
        have same : guarded run handler state = .error (.failure failure) after := by
          simp only [guarded, outcome, catchable, if_true]
        exact suffix_of_eq (ends.trans (Run.left_of_error same).symm)
      | false =>
        rw [ends, left_guarded_of_error outcome catchable]
        exact (rest failure).grows after
    | _ =>
      have same : (guarded run handler).left state = after := by simp only [Run.left, guarded, outcome]
      exact suffix_of_eq (ends.trans same.symm)

/-- A test records its result behind what is recorded inside of it. -/
theorem tests_test (f : Callback σ) (title : String) :
    ((f.call none []).left state).tests <:+ ((f.test title).left state).tests := by
  cases outcome : f.call none [] state with
  | ok value after =>
    rw [Run.left_of_ok outcome, Run.left_of_ok (Callback.test_of_ok outcome title)]
    exact List.suffix_cons _ _
  | error signal after =>
    have ends := Run.left_of_error outcome
    cases signal with
    | failure failure =>
      cases fatal : failure.fault.isFatal with
      | true =>
        have same := Callback.test_of_fatal outcome fatal title
        exact suffix_of_eq (ends.trans (Run.left_of_error same).symm)
      | false =>
        rw [ends, Run.left_of_ok (Callback.test_of_failure outcome fatal title)]
        exact List.suffix_cons _ _
    | _ =>
      have same : (f.test title).left state = after := by simp only [Run.left, Callback.test, outcome]
      exact suffix_of_eq (ends.trans same.symm)

end

/-! ### What stops -/

namespace Run.StopsAt
variable {run : Run σ α} {state left : State σ} {fault : Fault}

theorem bind (stops : run.StopsAt state fault left) (next : α → Run σ γ) :
    Run.StopsAt (run >>= next) state fault left := by
  obtain ⟨failure, after, outcome, same⟩ := stops
  exact ⟨failure, after, bind_error outcome, same⟩

theorem located (stops : run.StopsAt state fault left) (place : Plain.Position) :
    (run.located place).StopsAt state fault left := by
  obtain ⟨failure, after, outcome, same, outside⟩ := stops
  refine ⟨failure.placed place, after, by rw [Run.located, outcome], ?_, outside⟩
  unfold Failure.placed
  split <;> exact same

theorem restoring (stops : run.StopsAt state fault left) (restore : Frame → Frame → Frame) :
    (run.restoring restore).StopsAt state fault left := by
  obtain ⟨failure, after, outcome, same, outside⟩ := stops
  refine ⟨failure, { after with frame := restore state.frame after.frame }, ?_, same,
    outside.tests, outside.log, outside.vars⟩
  rw [Run.restoring, outcome]

theorem fromOutside
    (stops : run.StopsAt { state with frame := { state.frame with level := state.frame.level + 1 } }
      fault left) : run.fromOutside.StopsAt state fault left := by
  obtain ⟨failure, after, outcome, same, outside⟩ := stops
  refine ⟨failure, { after with operations := state.operations, frame := state.frame }, ?_, same,
    outside.tests, outside.log, outside.vars⟩
  rw [Run.fromOutside, outcome]

theorem leaving (stops : run.StopsAt state fault left) (name : String) (place : Plain.Position) :
    (leaving name place run).StopsAt state fault left := by
  obtain ⟨failure, after, outcome, same, outside⟩ := stops
  refine ⟨failure.leaveCall name place, after, by rw [Machine.leaving, outcome], ?_, outside⟩
  unfold Failure.leaveCall
  split <;> exact same

section
variable {run : Run σ Value}

theorem onePass (stops : run.StopsAt state fault left) :
    (onePass run).StopsAt state fault left := by
  obtain ⟨failure, after, outcome, same⟩ := stops
  exact ⟨failure, after, by rw [Machine.onePass, outcome], same⟩

theorem returned (stops : run.StopsAt state fault left) :
    (returned run).StopsAt state fault left := by
  obtain ⟨failure, after, outcome, same⟩ := stops
  exact ⟨failure, after, by rw [Machine.returned, outcome], same⟩

/-- What cannot be caught gets past a handler. -/
theorem guarded (stops : run.StopsAt state fault left) (fatal : fault.isFatal = true)
    (handler : Failure → Run σ Value) : (guarded run handler).StopsAt state fault left := by
  obtain ⟨failure, after, outcome, rfl, outside⟩ := stops
  refine ⟨failure, after, ?_, rfl, outside⟩
  simp only [Machine.guarded, outcome, Fault.isUncatchable_of_isFatal fatal, if_true]

/-- What arises in a handler gets out of it. -/
theorem handler {handler : Failure → Run σ Value} {failure : Failure} {middle : State σ}
    (stops : (handler failure).StopsAt middle fault left) (fatal : fault.isFatal = true)
    (failed : run state = .error (.failure failure) middle)
    (catchable : failure.fault.isUncatchable = false) :
    (Machine.guarded run handler).StopsAt state fault left := by
  obtain ⟨next, after, outcome, rfl, outside⟩ := stops
  refine ⟨next, after, ?_, rfl, outside⟩
  obtain ⟨fault, place, calls⟩ := next
  simp only [Machine.guarded, failed, catchable, Bool.false_eq_true, if_false, outcome]
  cases fault <;> first | rfl | cases fatal

end

/-- A comparison never fails. -/
theorem not_verdict {f : Callback σ} {a b : Value} : ¬ (f.verdict a b).StopsAt state fault left := by
  rintro ⟨failure, after, outcome, -⟩
  unfold Callback.verdict at outcome
  split at outcome
  · cases outcome
  · rename_i other
    exact other _ _ outcome

/-- A test does not hold back what ends the script, and records nothing then. -/
theorem test {f : Callback σ} (stops : (f.call none []).StopsAt state fault left)
    (fatal : fault.isFatal = true) (title : String) : (f.test title).StopsAt state fault left := by
  obtain ⟨failure, after, outcome, rfl, outside⟩ := stops
  exact ⟨failure, after, Callback.test_of_fatal outcome fatal title, rfl, outside⟩

end Run.StopsAt

namespace Run.Enters
variable {inner : Run σ β} {start : State σ} {run : Run σ α} {state : State σ}

theorem trans {middle : Run σ γ} {between : State σ}
    (inside : Enters setup inner start middle between)
    (outside : Enters setup middle between run state) : Enters setup inner start run state := by
  induction outside with
  | here => exact inside
  | first _ rest ih => exact .first ih rest
  | later done _ ih => exact .later done ih
  | located place _ ih => exact .located place ih
  | restoring restore _ ih => exact .restoring restore ih
  | fromOutside _ ih => exact .fromOutside ih
  | onePass _ ih => exact .onePass ih
  | returned _ ih => exact .returned ih
  | leaving name place _ ih => exact .leaving name place ih
  | guarded _ rest ih => exact .guarded ih rest
  | handler failed catchable _ ih => exact .handler failed catchable ih
  | comparison _ ih => exact .comparison ih
  | test title _ ih => exact .test title ih

/-- What is held back on the way out of the inner run is so on any longer way. -/
theorem heldBack {outer : Run σ γ} {before left : State σ}
    (outside : Enters setup run state outer before) (held : HeldBack setup inner start run state left) :
    HeldBack setup inner start outer before left := by
  obtain ⟨f, a, b, between, after, inside, within, outcome⟩ := held
  exact ⟨f, a, b, between, after, inside, within.trans outside, outcome⟩

/-- What the inner run leaves recorded stays recorded. -/
theorem recorded (enters : Enters setup inner start run state) :
    (inner.left start).tests <:+ (run.left state).tests := by
  induction enters with
  | here => exact List.suffix_rfl
  | first inside rest ih => exact ih.trans (tests_bind rest)
  | later done inside ih => rwa [left_bind_of_ok done]
  | located place inside ih => rwa [left_located]
  | restoring restore inside ih => rwa [tests_restoring]
  | fromOutside inside ih => rwa [tests_fromOutside]
  | onePass inside ih => rwa [left_onePass]
  | returned inside ih => rwa [left_returned]
  | leaving name place inside ih => rwa [left_leaving]
  | guarded inside rest ih => exact ih.trans (tests_guarded rest)
  | handler failed catchable inside ih => rwa [left_guarded_of_error failed catchable]
  | comparison inside ih => rwa [left_verdict]
  | test title inside ih => exact ih.trans (tests_test _ title)

/-- A fault that ends scripts ends every run that enters the one in which it arises, and nothing else
is done, unless a comparison in between holds it back. -/
theorem stops_or_heldBack (enters : Enters setup inner start run state) {fault : Fault}
    {left : State σ} (stops : inner.StopsAt start fault left) (fatal : fault.isFatal = true) :
    run.StopsAt state fault left ∨ HeldBack setup inner start run state left := by
  induction enters with
  | here => exact .inl stops
  | first inside rest ih => exact ih.imp (·.bind _) (heldBack (.first .here rest))
  | later done inside ih =>
    exact ih.imp (by rw [StopsAt, StopsAt, bind_ok done]; exact id) (heldBack (.later done .here))
  | located place inside ih => exact ih.imp (·.located place) (heldBack (.located place .here))
  | restoring restore inside ih =>
    exact ih.imp (·.restoring restore) (heldBack (.restoring restore .here))
  | fromOutside inside ih => exact ih.imp (·.fromOutside) (heldBack (.fromOutside .here))
  | onePass inside ih => exact ih.imp (·.onePass) (heldBack (.onePass .here))
  | returned inside ih => exact ih.imp (·.returned) (heldBack (.returned .here))
  | leaving name place inside ih =>
    exact ih.imp (·.leaving name place) (heldBack (.leaving name place .here))
  | guarded inside rest ih => exact ih.imp (·.guarded fatal _) (heldBack (.guarded .here rest))
  | handler failed catchable inside ih =>
    exact ih.imp (·.handler fatal failed catchable) (heldBack (.handler failed catchable .here))
  | @comparison f a b state inside ih =>
    -- The innermost comparison is the one that holds back.
    refine .inr ?_
    rcases ih with ⟨next, after, outcome, -, outside⟩ | held
    · exact ⟨f, a, b, state, after, .comparison inside, .here, by rw [Callback.verdict, outcome], outside⟩
    · exact heldBack (.comparison .here) held
  | test title inside ih => exact ih.imp (·.test fatal title) (heldBack (.test title .here))

/-! ### The way through a script -/

section
variable {fuel : Nat} {middle : State σ} {place : Plain.Position}

/-- Behind statements that are done, a script comes to the next one. -/
theorem statement {before after : List Plain.Stmt} {reached : Plain.Stmt} {value : Value}
    (done : before.foldlM (fun _ statement => exec setup fuel statement) .unit state =
      .ok value middle)
    (inside : Enters setup inner start (exec setup fuel reached) middle) :
    Enters setup inner start (runScript setup fuel (before ++ reached :: after)) state := by
  have rest (value : Value) :
      (after.foldlM (fun _ statement => exec setup fuel statement) value).OfScript setup :=
    fun _ invariant => Keeps.foldlM (fun _ statement => (invariant.kept fuel).exec statement) after value
  rw [runScript, List.foldlM_append]
  refine .returned (.later done ?_)
  rw [List.foldlM_cons]
  exact .first inside rest

theorem expression {value : Plain.Expr} (counted : tick setup value.place state = .ok () middle)
    (inside : Enters setup inner start (eval setup fuel value) middle) :
    Enters setup inner start (exec setup (fuel + 1) (.expression value)) state := by
  rw [exec]
  exact .later counted inside

theorem call {name : String} {args : List Plain.Expr}
    (undefined : setup.defined? name args.length = none)
    (counted : tick setup place state = .ok () middle)
    (inside : Enters setup inner start (Machine.call setup fuel name args place) middle) :
    Enters setup inner start (eval setup (fuel + 1) (.call name args place)) state := by
  rw [eval]
  refine .later counted ?_
  simpa only [undefined] using inside

/-- A function whose first argument is written out is called with the values of its arguments. -/
theorem invoke {name : String} {first : Plain.Literal} {others : List Plain.Expr}
    {values : List Value}
    (done : (Plain.Expr.literal first :: others).mapM (eval setup fuel) state = .ok values middle)
    (inside : Enters setup inner start (Machine.invoke setup fuel name values place) middle) :
    Enters setup inner start (Machine.call setup (fuel + 1) name (.literal first :: others) place)
      state := by
  rw [Machine.call]
  · exact .later done (.first inside fun _ _ _ => .pure _)
  · rintro receiver mark rest ⟨⟩
  · rintro mark rest ⟨⟩

end

end Run.Enters

end ApiProbe.Machine
