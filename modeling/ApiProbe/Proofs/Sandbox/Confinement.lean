import ApiProbe.Sandbox
import ApiProbe.Proofs.Machine.Execution
import ApiProbe.Proofs.Variable.Confinement

/-!
Write permissions confine scripts. A script that runs with limited access leaves the other scopes and
their part of the history as they were, and so does every sequence of calls to what it finds around
itself, whichever of them fail.
-/
namespace ApiProbe.Sandbox
open Machine

/-- What a script can ask of the objects around it. A test and an attempt go on to their next call as
long as none fails; both hold a failure back, except one that ends the script. -/
inductive HostCall
  | property (name : String) (object : Object Value)
  | call (name : String) (args : List Value)
  | test (title : String) (calls : List HostCall)
  | attempt (calls : List HostCall)

namespace HostCall
variable {σ : Type}

mutual

def run (setup : Setup σ) : HostCall → Run σ Value
  | .property name object =>
    (Probe.property? setup name object).getD (.fail (.functionNotFound name [.host object]))
  | .call name args => (Probe.call? setup name args).getD (.fail (.functionNotFound name args))
  | .test title calls => do
    discard (Callback.test title ⟨0, fun _ _ => runAll setup calls⟩)
    pure .unit
  | .attempt calls => guarded (runAll setup calls) fun _ => pure .unit

def runAll (setup : Setup σ) : List HostCall → Run σ Value
  | [] => pure .unit
  | first :: rest => do
    discard (first.run setup)
    runAll setup rest

end

/-- The state after a sequence of calls, each made whether or not those before it failed. -/
def after (setup : Setup σ) (state : State σ) (calls : List HostCall) : State σ :=
  calls.foldl (fun state call => (call.run setup).left state) state

variable {setup : Setup σ} {holds : State σ → Prop}

private theorem getD_keeps {offer : Option (Run σ Value)} (offered : Run.Offers holds offer)
    (fault : Fault) : (offer.getD (.fail fault)).Keeps holds := by
  cases offer with
  | none => exact Run.fail_keeps fault
  | some run => exact offered run rfl

mutual

theorem run_keeps (invariant : Invariant setup holds) :
    ∀ call : HostCall, (call.run setup).Keeps holds
  | .property name object => by
    rw [run]
    exact getD_keeps (Probe.property?_keeps name object) _
  | .call name args => by
    rw [run]
    exact getD_keeps (Probe.call?_keeps invariant name args) _
  | .test title calls => by
    rw [run]
    have body : Callback.Keeps holds ⟨0, fun _ _ => runAll setup calls⟩ :=
      fun _ _ => runAll_keeps invariant calls
    exact ((Callback.test_keeps body invariant title).map _).bind fun _ => .pure _
  | .attempt calls => by
    rw [run]
    exact (runAll_keeps invariant calls).guarded fun _ => .pure _

theorem runAll_keeps (invariant : Invariant setup holds) :
    ∀ calls : List HostCall, (runAll setup calls).Keeps holds
  | [] => by
    rw [runAll]
    exact .pure _
  | first :: rest => by
    rw [runAll]
    exact ((run_keeps invariant first).map _).bind fun _ => runAll_keeps invariant rest

end

theorem after_keeps (invariant : Invariant setup holds) (calls : List HostCall) {state : State σ}
    (valid : holds state) : holds (after setup state calls) := by
  induction calls generalizing state with
  | nil => exact valid
  | cons first rest ih => exact ih (run_keeps invariant first state valid)

end HostCall

/-- Staying within an access is an invariant of scripts. Only there is something to show where a
script writes: setting and unsetting check the access themselves, keeping relies on its caller. -/
theorem within_invariant (settings : Settings) (access : Access) (start : Store)
    (request : Http.Request) (response : Option Http.Response) (script : Plain.Script) :
    Invariant (setupFor settings (world settings request response) script)
      fun state => Handle.Within access start state.vars where
  inner _ _ _ _ _ within := within
  print _ _ within := within
  report _ _ within := within
  write _ _ _ _ _ within done := within.set done
  erase _ _ _ _ _ within done := within.unset done
  keep _ _ _ _ _ within opened done := within.keep opened done

/-- The state of an evaluation that comes to a report is the one that the script leaves. -/
theorem evaluate_vars {σ : Type} {settings : Settings} {world : World σ} {vars after : σ}
    {script : Plain.Script} {report : ScriptReport}
    (done : evaluate settings world vars script = .ok (report, after)) :
    after = ((runScript (setupFor settings world script) (fuel settings) script.body).left
      (.initial vars)).vars := by
  unfold evaluate at done
  unfold Run.left
  cases outcome : runScript (setupFor settings world script) (fuel settings) script.body
    (.initial vars) with
  | ok value state =>
    rw [outcome] at done
    cases done
    rfl
  | error signal state =>
    rw [outcome] at done
    cases signal with
    | failure failure =>
      simp only at done
      split at done <;> cases done <;> rfl
    | abort reason => cases done
    | _ =>
      cases done
      rfl

/-- However a script runs, and whatever calls are made in whatever order, the store is left as the
access allows. -/
theorem writes_confined (settings : Settings) (language : Option Language) (access : Access)
    (start : Store) (request : Http.Request) (response : Option Http.Response) :
    (∀ script report handle,
      run settings language access start request response script = .ok (report, handle) →
        access.Reaches start handle.store) ∧
    ∀ calls : List HostCall, access.Reaches start
      (HostCall.after (setup settings (world settings request response))
        (.initial ⟨start, access⟩) calls).vars.store := by
  have invariant := within_invariant settings access start request response
  have initial := Handle.Within.initial access start
  constructor
  · intro script report handle done
    unfold run at done
    simp only at done
    split at done
    · cases done
      exact .refl start
    · rw [evaluate_vars done]
      exact ((invariant _).runScript _ _ _ initial).reached
  · intro calls
    exact (HostCall.after_keeps (invariant ⟨[], []⟩) calls initial).reached

/-- A script that may write the environment alone sets one variable there and fails at the next. -/
theorem writes_confined_to_environment :
    let access := Access.limited [.environment] .script
    let start := Store.empty 10 5 ⟨0⟩
    ∃ report handle,
      run .default none access start ⟨.get, "http://localhost", [], none⟩ none
        "pm.environment.set('a', '1'); pm.globals.set('a', '2');" = .ok (report, handle) ∧
      report.succeeded = false ∧ handle.store.get? "a" none = some "1" ∧
      access.Reaches start handle.store := by
  intro access start
  have ends : (match run .default none access start ⟨.get, "http://localhost", [], none⟩ none
      "pm.environment.set('a', '1'); pm.globals.set('a', '2');" with
    | .ok (report, handle) => !report.succeeded && handle.store.get? "a" none == some "1"
    | .error _ => false) = true := by decide +kernel
  split at ends
  · rename_i report handle done
    have confined := (writes_confined .default none access start ⟨.get, "http://localhost", [], none⟩
      none).1 _ report handle done
    simp only [Bool.and_eq_true, Bool.not_eq_true', beq_iff_eq] at ends
    exact ⟨report, handle, done, ends.1, ends.2, confined⟩
  · cases ends

end ApiProbe.Sandbox
