import ApiProbe.Sandbox
import ApiProbe.Proofs.Machine.Entering

/-!
Tests are apart from each other. Whatever a script does, a test that it comes to records one result
when its block is done, behind the results so far, and a failure of the block goes no further; a
limit of the settings is to end the script instead. Sizes of values are limits that tests hold back,
and what gets out of a test is held back by a comparison of items if the test runs inside of one.
-/
namespace ApiProbe

namespace Machine
variable {σ : Type} {setup : Setup σ}

/-- A test as scripts call it, by its name or as a method of what they find around them. -/
structure TestCall where
  fuel : Nat
  title : String
  block : Plain.Function
  captured : List (Slot Value)
  args : List Value
  place : Plain.Position
  asks : args = [.str title, .closure block captured] ∨
    args = [.host .probe, .str title, .closure block captured]

namespace TestCall

def run (setup : Setup σ) (call : TestCall) : Run σ Visit :=
  invoke setup (call.fuel + 1) "test" call.args call.place

/-- Runs the block of the test, as if from outside of the script. -/
def body (setup : Setup σ) (call : TestCall) : Run σ Value :=
  Run.fromOutside do
    pure (← callClosure setup call.fuel call.block call.captured none [] call.place).1

/-- What is done once the test is done with. -/
def settle (setup : Setup σ) (call : TestCall) (reply : Reply) : Run σ Visit := do
  if let some target := reply.changed then Run.checkSize setup call.place target
  Run.checkSize setup call.place reply.value
  pure (reply.value, reply.changed)

theorem run_eq (call : TestCall) (setup : Setup σ) :
    ∃ f : Callback σ, f.call none [] = call.body setup ∧ call.run setup =
      (Run.tick setup call.place >>= fun _ =>
        Run.located call.place (f.test call.title) >>= call.settle setup) := by
  obtain ⟨fuel, title, block, captured, args, place, rfl | rfl⟩ := call
  · exact ⟨_, rfl, rfl⟩
  · exact ⟨_, rfl, rfl⟩

theorem body_ofScript (call : TestCall) : (call.body setup).OfScript setup := fun _ invariant =>
  .fromOutside invariant (((invariant.kept call.fuel).callClosure _ _ _ _ _).bind fun _ => .pure _)

section
variable {call : TestCall} {start ready after : State σ}
  (counted : Run.tick setup call.place start = .ok () ready)
include counted

/-- A fault that tests do not hold back ends the call where the block left off. -/
theorem run_stops {failure : Failure}
    (failed : call.body setup ready = .error (.failure failure) after)
    (fatal : failure.fault.isFatal = true) :
    (call.run setup).StopsAt start failure.fault after := by
  obtain ⟨f, same, shape⟩ := call.run_eq setup
  have block : (f.call none []).StopsAt ready failure.fault after :=
    ⟨failure, after, same ▸ failed, rfl, rfl, rfl, rfl⟩
  have stops := ((block.test fatal call.title).located call.place).bind (call.settle setup)
  rwa [shape, Run.StopsAt, Run.bind_ok counted]

/-- What was recorded when the call began is there when its block is done. -/
theorem body_records : start.tests <:+ ((call.body setup).left ready).tests := by
  have same : ready.tests = start.tests := by
    unfold Run.tick at counted
    dsimp only at counted
    split at counted
    · cases counted
    split at counted
    · cases counted
    · cases counted
      rfl
  exact same ▸ call.body_ofScript.grows ready

end

end TestCall
end Machine

namespace Sandbox
open Machine

section
variable {σ : Type} (settings : Settings) (world : World σ) (vars : σ) (script : Plain.Script)
  (call : TestCall)

/-- The script comes to the call of a test, counts it, and so comes to its block. -/
structure Makes (start ready : State σ) : Prop where
  entered : Run.Enters (setupFor settings world script)
    (call.run (setupFor settings world script)) start
    (runScript (setupFor settings world script) (fuel settings) script.body) (.initial vars)
  counted : Run.tick (setupFor settings world script) call.place start = .ok () ready

/-- A result is recorded behind what is recorded when the block is done, and the script goes on from
there. In the report the result follows on what was recorded before it. -/
structure Records (start after : State σ) (result : TestResult) : Prop where
  goesOn : call.run (setupFor settings world script) start =
    .ok (.unit, none) { after with tests := result :: after.tests }
  earlier : start.tests <:+ after.tests
  reported : ∀ report left, evaluate settings world vars script = .ok (report, left) →
    after.tests.reverse ++ [result] <+: report.tests

/-- A run lies around the call of a test: the script comes to it, and on its way it comes to the call. -/
structure Surrounds {α : Type} (start : State σ) (run : Run σ α) (state : State σ) : Prop where
  inside : Run.Enters (setupFor settings world script)
    (call.run (setupFor settings world script)) start run state
  outside : Run.Enters (setupFor settings world script) run state
    (runScript (setupFor settings world script) (fuel settings) script.body) (.initial vars)

/-- The call of a test is made while items are compared. -/
def Compares (start : State σ) : Prop :=
  ∃ (f : Callback σ) (a b : Value) (state : State σ),
    Surrounds settings world vars script call start (f.verdict a b) state

/-- The fault of a block ends all that lies around the test, and with it the script, as failed where
the block left off: nothing is recorded, printed or changed any more. -/
structure Stops (start after : State σ) (fault : Fault) : Prop where
  through : ∀ {α : Type} (run : Run σ α) (state : State σ),
    Surrounds settings world vars script call start run state → run.StopsAt state fault after
  ended : ∃ error, evaluate settings world vars script =
    .ok (⟨.error error, after.log.all, after.tests.reverse⟩, after.vars)

end

section
variable {σ : Type} {settings : Settings} {world : World σ} {vars : σ} {script : Plain.Script}
  {call : TestCall} {start ready after : State σ}

/-- The results of a report are those that the script left, in the order in which they came. -/
theorem evaluate_tests {left : σ} {report : ScriptReport}
    (done : evaluate settings world vars script = .ok (report, left)) :
    report.tests = ((runScript (setupFor settings world script) (fuel settings) script.body).left
      (.initial vars)).tests.reverse := by
  unfold evaluate at done
  unfold Run.left
  cases outcome : runScript (setupFor settings world script) (fuel settings) script.body
    (.initial vars) with
  | ok value state =>
    rw [outcome] at done
    cases done
    rfl
  | error signal state =>
    rw [outcome] at done
    cases signal with
    | failure failure =>
      simp only at done
      split at done <;> cases done <;> rfl
    | abort reason => cases done
    | _ =>
      cases done
      rfl

theorem Makes.records (makes : Makes settings world vars script call start ready)
    {result : TestResult}
    (left : (call.body (setupFor settings world script)).left ready = after)
    (goesOn : call.run (setupFor settings world script) start =
      .ok (.unit, none) { after with tests := result :: after.tests }) :
    Records settings world vars script call start after result := by
  refine ⟨goesOn, left ▸ TestCall.body_records makes.counted, fun report last done => ?_⟩
  have recorded := makes.entered.recorded
  rw [Run.left_of_ok goesOn] at recorded
  rw [evaluate_tests done, ← List.reverse_cons]
  exact List.reverse_prefix.mpr recorded

theorem Makes.stops (makes : Makes settings world vars script call start ready) {failure : Failure}
    (failed : call.body (setupFor settings world script) ready = .error (.failure failure) after)
    (fatal : failure.fault.isFatal = true)
    (apart : ¬ Compares settings world vars script call start) :
    Stops settings world vars script call start after failure.fault := by
  have through {α : Type} (run : Run σ α) (state : State σ)
      (around : Surrounds settings world vars script call start run state) :
      run.StopsAt state failure.fault after := by
    rcases around.inside.stops_or_heldBack (call.run_stops makes.counted failed fatal) fatal with
      stops | ⟨f, a, b, between, _, inside, within, _⟩
    · exact stops
    · exact absurd ⟨f, a, b, between, inside, within.trans around.outside⟩ apart
  refine ⟨through, ?_⟩
  obtain ⟨last, left, outcome, same, outside⟩ := through _ _ ⟨makes.entered, .here⟩
  refine ⟨errorOf last, ?_⟩
  simp only [evaluate, outcome]
  split
  · rename_i value ended
    rw [← same, ended] at fatal
    cases fatal
  · simp only [report, outside.tests, outside.log, outside.vars]

theorem Makes.heldBack (makes : Makes settings world vars script call start ready)
    {failure : Failure}
    (failed : call.body (setupFor settings world script) ready = .error (.failure failure) after)
    (fatal : failure.fault.isFatal = true)
    (compares : Compares settings world vars script call start) :
    Run.HeldBack (setupFor settings world script) (call.run (setupFor settings world script)) start
      (runScript (setupFor settings world script) (fuel settings) script.body)
      (.initial vars) after := by
  obtain ⟨f, a, b, state, around⟩ := compares
  have ends := call.run_stops makes.counted failed fatal
  rcases around.inside.stops_or_heldBack ends fatal with stops | held
  · exact absurd stops Run.StopsAt.not_verdict
  · exact Run.Enters.heldBack around.outside held

end

/-- A test that takes too many operations inside of a comparison ends the comparison alone. -/
example :
    (run { Settings.default with maxOperations := 14 } none (.limited [] .script)
      (Store.empty 10 5 ⟨0⟩) ⟨.get, "http://localhost", [], none⟩ none
      "[2, 1].sort((a, b) => test('t', () => { while (true) {} }))\nconsole.log('after')").toOption.map
        (fun (report, _) => (report.succeeded, report.logs, report.tests)) =
      some (true, ["after"], []) := by
  decide +kernel

end Sandbox
end ApiProbe
