import ApiProbe.Machine.Evaluation
import ApiProbe.Proofs.Machine.Hosting

/-!
Scripts keep the invariants. Evaluations with more fuel rest on those with less, so the induction is
on the fuel, over all functions of the machine at once; when it runs out they fail in place.
-/
namespace ApiProbe.Machine
open Plain

variable {σ : Type} {setup : Setup σ} {holds : State σ → Prop}

/-- All that evaluates with some fuel keeps an invariant. -/
structure Kept (setup : Setup σ) (holds : State σ → Prop) (fuel : Nat) : Prop where
  eval : ∀ expr, (eval setup fuel expr).Keeps holds
  prepared : ∀ link, (prepared setup fuel link).Keeps holds
  follow : ∀ root steps goal, (follow setup fuel root steps goal).Keeps holds
  walk : ∀ target steps goal, (walk setup fuel target steps goal).Keeps holds
  method : ∀ target name args place, (method setup fuel target name args place).Keeps holds
  call : ∀ name args place, (call setup fuel name args place).Keeps holds
  ask : ∀ f args place, (ask setup fuel f args place).Keeps holds
  callDefined : ∀ f self args place, (callDefined setup fuel f self args place).Keeps holds
  invoke : ∀ name args place, (invoke setup fuel name args place).Keeps holds
  callClosure : ∀ f captured self args place,
    (callClosure setup fuel f captured self args place).Keeps holds
  callNamed : ∀ name self args place, (callNamed setup fuel name self args place).Keeps holds
  exec : ∀ statement, (exec setup fuel statement).Keeps holds
  assign : ∀ operator target value place,
    (assign setup fuel operator target value place).Keeps holds
  block : ∀ body, (block setup fuel body).Keeps holds
  whileLoop : ∀ condition body place, (whileLoop setup fuel condition body place).Keeps holds
  doLoop : ∀ body condition stopsOn place,
    (doLoop setup fuel body condition stopsOn place).Keeps holds
  forLoop : ∀ name course body place, (forLoop setup fuel name course body place).Keeps holds

namespace Run.Keeps
variable {run : Run σ Value}

theorem onePass (kept : run.Keeps holds) : (onePass run).Keeps holds :=
  kept.relabel fun state => by
    unfold left Machine.onePass
    cases run state with
    | ok value after => rfl
    | error signal after => cases signal <;> rfl

theorem returned (kept : run.Keeps holds) : (returned run).Keeps holds :=
  kept.relabel fun state => by
    unfold left Machine.returned
    cases run state with
    | ok value after => rfl
    | error signal after => cases signal <;> rfl

theorem leaving {α : Type} {run : Run σ α} (name : String) (place : Position)
    (kept : run.Keeps holds) : (leaving name place run).Keeps holds :=
  kept.relabel fun state => by
    unfold left Machine.leaving
    cases run state with
    | ok value after => rfl
    | error signal after => cases signal <;> rfl

theorem guarded {handler : Failure → Run σ Value} (kept : run.Keeps holds)
    (handled : ∀ failure, (handler failure).Keeps holds) :
    (guarded run handler).Keeps holds := by
  intro state valid
  simp only [left, Machine.guarded]
  cases outcome : run state with
  | ok value after => exact kept.after_ok valid outcome
  | error signal after =>
    have middle := kept.after_error valid outcome
    cases signal with
    | failure failure =>
      cases uncatchable : failure.fault.isUncatchable with
      | true => simpa only [uncatchable, ↓reduceIte] using middle
      | false =>
        simp only [uncatchable, Bool.false_eq_true, ↓reduceIte]
        cases caught : handler failure after with
        | ok value last => exact (handled failure).after_ok middle caught
        | error second last =>
          have later := (handled failure).after_error middle caught
          cases second with
          | failure second =>
            obtain ⟨fault, place, calls⟩ := second
            cases fault with
            | thrown value => cases value <;> exact later
            | _ => exact later
          | _ => exact later
    | _ => exact middle

theorem settle {evaluate : Expr → Run σ Value} {settles : Expr → Value → Run σ Bool}
    (evaluates : ∀ expr, (evaluate expr).Keeps holds)
    (decides : ∀ expr value, (settles expr value).Keeps holds) (value : Value)
    (operands : List Expr) : (settle evaluate settles value operands).Keeps holds := by
  induction operands generalizing value with
  | nil => exact .pure value
  | cons operand rest ih =>
    refine (evaluates operand).bind fun value => (decides operand value).bind fun settled => ?_
    split
    · exact .pure value
    · exact ih value

end Run.Keeps

open Run

theorem boolean_keeps (place : Position) (value : Value) :
    (boolean place value : Run σ Bool).Keeps holds := by
  unfold boolean
  split
  · exact .pure _
  · exact failAt_keeps place _

theorem settles_keeps (connective : Connective) (operand : Expr) (value : Value) :
    (settles connective operand value : Run σ Bool).Keeps holds := by
  cases connective with
  | both => exact (boolean_keeps _ _).bind fun _ => .pure _
  | either => exact boolean_keeps _ _
  | present => exact .pure _

theorem valueOf_keeps {evaluate : Expr → Run σ Value}
    (kept : ∀ expr, (evaluate expr).Keeps holds) (value : Option Expr) :
    (valueOf evaluate value).Keeps holds := by
  cases value with
  | some value => exact kept value
  | none => exact .pure _

theorem arguments_keeps {evaluate : Expr → Run σ Value}
    (kept : ∀ expr, (evaluate expr).Keeps holds) (args : List Expr) :
    (arguments setup evaluate args).Keeps holds := by
  unfold arguments
  split
  · exact (Keeps.mapM kept _).bind fun _ => (lookUp_keeps setup _ _).bind fun _ => .pure _
  · exact (Keeps.mapM kept _).bind fun _ => (receiver_keeps _).bind fun _ => .pure _
  · exact Keeps.mapM kept _

theorem goesOn_keeps {evaluate : Expr → Run σ Value}
    (kept : ∀ expr, (evaluate expr).Keeps holds) (condition : Option Expr) :
    (goesOn evaluate condition).Keeps holds := by
  cases condition with
  | some condition => exact (kept condition).bind fun value => boolean_keeps _ value
  | none => exact .pure _

theorem chosen_keeps {evaluate : Expr → Run σ Value}
    (kept : ∀ expr, (evaluate expr).Keeps holds) (otherwise : Option Stmt) (cases : List Case) :
    (chosen evaluate otherwise cases).Keeps holds := by
  induction cases with
  | nil => exact .pure _
  | cons first rest ih =>
    obtain ⟨labels, _ | condition, action⟩ := first
    · exact .pure _
    · exact (kept condition).bind fun value => (boolean_keeps _ value).bind fun verdict =>
        .ite (.pure _) ih

theorem handed_keeps (invariant : Invariant setup holds)
    {call : Function → List (Slot Value) → Option Value → List Value → Run σ Visit}
    (kept : ∀ f captured self args, (call f captured self args).Keeps holds) (value : Value) :
    ∀ f ∈ handed setup call value, f.Keeps holds := by
  intro f member
  cases value with
  | closure g captured =>
    cases member
    exact fun self args => .fromOutside invariant ((kept g captured self args).bind fun _ => .pure _)
  | _ => cases member

theorem property_keeps (target : Value) (name : String) (place : Position) :
    (property setup target name place).Keeps holds := by
  unfold property
  split
  · exact .pure _
  · split
    · rename_i offered
      exact .located place (Probe.property?_keeps name _ _ offered)
    · exact failAt_keeps place _
  · split
    · exact .pure _
    · exact failAt_keeps place _

theorem incoming_keeps (operator : Option String) (value : Value) (place : Position)
    {current : Run σ Value} (kept : current.Keeps holds) :
    (incoming setup operator value place current).Keeps holds := by
  cases operator with
  | none => exact .pure value
  | some sign =>
    refine kept.bind fun before => ?_
    exact (Keeps.located place (ofExcept_keeps _)).bind fun result =>
      (checkSize_keeps place result).bind fun _ => .pure _

namespace Kept
variable {fuel : Nat} (below : Kept setup holds fuel) (invariant : Invariant setup holds)
include below invariant

theorem eval_succ (expr : Expr) : (Machine.eval setup (fuel + 1) expr).Keeps holds := by
  unfold Machine.eval
  refine (tick_keeps invariant _).bind fun _ => ?_
  have values (exprs : List Expr) := Keeps.mapM below.eval exprs
  have sized {value : Value} (place : Position) :
      (do checkSize setup place value; Pure.pure value : Run σ Value).Keeps holds :=
    (checkSize_keeps place value).bind fun _ => .pure _
  cases expr with
  | literal value => exact .pure _
  | variable_ name place => exact lookUp_keeps setup name place
  | self place => exact receiver_keeps place
  | list items place => exact (values items).bind fun _ => sized place
  | record members place =>
    refine (Keeps.mapM (fun member => ?_) members).bind fun _ => sized place
    exact (below.eval member.2).bind fun _ => .pure _
  | template pieces place => exact (values pieces).bind fun _ => sized place
  | call name args place =>
    simp only
    split
    · exact below.ask _ args place
    · exact below.call name args place
  | foreign module name called args place =>
    exact ((values args).map _).bind fun _ => failAt_keeps place _
  | logic connective operands place =>
    exact .settle below.eval (settles_keeps connective) .unit operands
  | chain root links =>
    exact (Keeps.mapM below.prepared links).bind fun steps => below.follow root steps .read
  | statement body place => exact (below.exec body).inBlock invariant
  | closure number params captured body place =>
    exact (Keeps.mapM (fun entry => share_keeps invariant entry.1 entry.2) captured).bind
      fun _ => .pure _

omit invariant in
theorem prepared_succ (link : Link) : (Machine.prepared setup (fuel + 1) link).Keeps holds := by
  unfold Machine.prepared
  cases link with
  | property name optional place => exact .pure _
  | method name args optional place =>
    refine (Keeps.mapM below.eval args).bind fun _ => ?_
    split <;> exact .pure _
  | index key optional place => exact (below.eval key).bind fun _ => .pure _

theorem follow_succ (root : Expr) (steps : List Step) (goal : Goal) :
    (Machine.follow setup (fuel + 1) root steps goal).Keeps holds := by
  unfold Machine.follow
  have along (value : Value) := below.walk value steps goal
  cases root with
  | variable_ name place =>
    refine (lookUp_keeps setup name place).bind fun value => (along value).bind fun visit => ?_
    obtain ⟨value, _ | target⟩ := visit
    · exact .pure _
    · exact ((update_keeps invariant name target).map _).bind fun _ => .pure _
  | self place =>
    refine (receiver_keeps place).bind fun value => (along value).bind fun visit => ?_
    obtain ⟨value, _ | target⟩ := visit
    · exact .pure _
    · exact (setReceiver_keeps invariant target).bind fun _ => .pure _
  | _ => exact (below.eval _).bind fun value => (along value).bind fun _ => .pure _

omit invariant in
theorem walk_succ (target : Value) (steps : List Step) (goal : Goal) :
    (Machine.walk setup (fuel + 1) target steps goal).Keeps holds := by
  cases steps with
  | nil => exact .pure _
  | cons step rest =>
    unfold Machine.walk
    split
    · exact .pure _
    · cases step with
      | property name optional place =>
        have current : (property setup target name place).Keeps holds :=
          property_keeps target name place
        simp only
        split
        · refine (incoming_keeps _ _ _ current).bind fun value => ?_
          exact (Keeps.located place (ofExcept_keeps _)).bind fun _ => .pure _
        · refine current.bind fun member => (below.walk member rest goal).bind fun visit => ?_
          split <;> exact .pure _
      | method name args optional place =>
        refine (below.method target name args place).bind fun visit => ?_
        exact (below.walk visit.1 rest goal).bind fun _ => .pure _
      | defined f args optional place =>
        have onwards (visit : Visit) : Keeps holds
            (Machine.walk setup fuel visit.1 rest goal >>= fun onward => pure (onward.1, visit.2)) :=
          (below.walk visit.1 rest goal).bind fun _ => .pure _
        simp only
        split
        · exact (below.method target f.name args place).bind onwards
        · exact (below.callDefined f (some target) args place).bind onwards
      | index key optional place =>
        have current : Keeps holds (located place (ofExcept (item target key)) : Run σ Value) :=
          .located place (ofExcept_keeps _)
        simp only
        split
        · refine (incoming_keeps _ _ _ current).bind fun value => ?_
          exact (Keeps.located place (ofExcept_keeps _)).bind fun _ => .pure _
        · refine current.bind fun member => (below.walk member rest goal).bind fun visit => ?_
          split
          · exact (Keeps.located place (ofExcept_keeps _)).bind fun _ => .pure _
          · exact .pure _

omit invariant in
theorem method_succ (target : Value) (name : String) (args : List Value) (place : Position) :
    (Machine.method setup (fuel + 1) target name args place).Keeps holds := by
  unfold Machine.method
  split
  · exact below.callClosure _ _ _ _ _
  · exact .pure _
  · exact below.callClosure _ _ _ _ _
  · exact failAt_keeps place _
  · split
    · exact below.callClosure _ _ _ _ _
    · exact below.invoke _ _ _
  · exact below.invoke _ _ _

theorem call_succ (name : String) (args : List Expr) (place : Position) :
    (Machine.call setup (fuel + 1) name args place).Keeps holds := by
  unfold Machine.call
  split
  · refine (Keeps.mapM below.eval _).bind fun others => (lookUp_keeps setup _ _).bind fun target =>
      (below.invoke name _ place).bind fun visit => ?_
    obtain ⟨value, _ | changed⟩ := visit
    · exact .pure _
    · exact ((update_keeps invariant _ changed).map _).bind fun _ => .pure _
  · refine (Keeps.mapM below.eval _).bind fun others => (receiver_keeps _).bind fun target =>
      (below.invoke name _ place).bind fun visit => ?_
    obtain ⟨value, _ | changed⟩ := visit
    · exact .pure _
    · exact (setReceiver_keeps invariant changed).bind fun _ => .pure _
  · exact (Keeps.mapM below.eval args).bind fun values =>
      (below.invoke name values place).bind fun _ => .pure _

omit invariant in
theorem ask_succ (f : Function) (args : List Expr) (place : Position) :
    (Machine.ask setup (fuel + 1) f args place).Keeps holds := by
  unfold Machine.ask
  exact (arguments_keeps below.eval args).bind fun values =>
    (below.callDefined f none values place).bind fun _ => .pure _

omit invariant in
theorem callDefined_succ (f : Function) (self : Option Value) (args : List Value)
    (place : Position) : (Machine.callDefined setup (fuel + 1) f self args place).Keeps holds := by
  unfold Machine.callDefined
  exact .ite (.pure _) (below.callClosure f [] self args place)

/-- A closure that is handed to a function is called as if from outside of the script. -/
theorem invoke_succ (name : String) (args : List Value) (place : Position) :
    (Machine.invoke setup (fuel + 1) name args place).Keeps holds := by
  unfold Machine.invoke
  refine (tick_keeps invariant place).bind fun _ => ?_
  split
  · exact below.callClosure _ _ _ _ _
  · exact .pure _
  · exact failAt_keeps place _
  · exact (Keeps.located place (ofExcept_keeps _)).bind fun _ => .pure _
  · have prepared (value : Value) : ∀ f ∈ handed setup (fun f captured self args =>
        Machine.callClosure setup fuel f captured self args place) value, f.Keeps holds :=
      handed_keeps invariant
        (fun f captured self args => below.callClosure f captured self args place) value
    refine (Keeps.located place ?_).bind fun reply => ?_
    · split
      · rename_i offered
        exact Callback.call?_keeps invariant prepared name args _ offered
      · rename_i offered
        exact (Probe.call?_keeps invariant name args _ offered).bind fun _ => .pure _
      · split
        · exact ofExcept_keeps _
        · exact fail_keeps _
    · obtain ⟨value, _ | changed⟩ := reply
      · exact (checkSize_keeps place value).bind fun _ => .pure _
      · exact (checkSize_keeps place changed).bind fun _ =>
          (checkSize_keeps place value).bind fun _ => .pure _

theorem callClosure_succ (f : Function) (captured : List (Slot Value)) (self : Option Value)
    (args : List Value) (place : Position) :
    (Machine.callClosure setup (fuel + 1) f captured self args place).Keeps holds := by
  unfold Machine.callClosure
  simp only
  have values (slots : List (Slot Value)) : (slots.mapM readSlot : Run σ (List Value)).Keeps holds :=
    .mapM readSlot_keeps slots
  split
  · exact (values _).bind fun _ => below.callNamed _ _ _ _
  · split
    · exact (values _).bind fun _ => failAt_keeps place _
    · refine (tick_keeps invariant place).bind fun _ => Keeps.get.bind fun state => ?_
      split
      · exact failAt_keeps place _
      · exact .leaving f.name place (.inFrame invariant _ (below.exec _).returned)

omit invariant in
theorem callNamed_succ (name : String) (self : Option Value) (args : List Value)
    (place : Position) : (Machine.callNamed setup (fuel + 1) name self args place).Keeps holds := by
  unfold Machine.callNamed
  split
  · exact below.callDefined _ self args place
  · exact below.invoke name _ place

theorem exec_succ (statement : Stmt) :
    (Machine.exec setup (fuel + 1) statement).Keeps holds := by
  unfold Machine.exec
  extract_lets rest
  have kept : ∀ begun, (rest begun).Keeps holds := by
    intro begun
    cases statement with
    | expression value => exact below.eval value
    | declare name value =>
      exact (valueOf_keeps below.eval value).bind fun initial =>
        (declare_keeps invariant name initial).bind fun _ => .pure _
    | assign operator target value place =>
      exact (below.eval value).bind fun value => below.assign operator target value place
    | block body => exact below.block body
    | branch condition yes no =>
      refine (below.eval condition).bind fun value => (boolean_keeps _ value).bind fun verdict => ?_
      exact .ite (below.block yes) (below.block no)
    | choice value cases otherwise =>
      refine (below.eval value).bind fun value =>
        (chosen_keeps below.eval otherwise _).bind fun action => ?_
      split
      · exact (below.exec _).inBlock invariant
      · exact .pure _
    | whileLoop condition body place => exact below.whileLoop condition body place
    | doLoop body condition stopsOn place => exact below.doLoop body condition stopsOn place
    | forLoop name items body place =>
      refine (below.eval items).bind fun value => ?_
      split
      · exact .inBlock invariant ((declare_keeps invariant name .unit).bind fun _ =>
          below.forLoop name _ body place)
      · exact failAt_keeps _ _
    | leave value => exact (valueOf_keeps below.eval value).bind fun _ => .throw _
    | next => exact .throw _
    | giveBack value => exact (valueOf_keeps below.eval value).bind fun _ => .throw _
    | throw_ value place =>
      exact (valueOf_keeps below.eval value).bind fun _ => failAt_keeps place _
    | attempt body name handler =>
      refine (below.block body).guarded fun failure => .inBlock invariant ?_
      cases name with
      | some name =>
        exact (declare_keeps invariant name _).bind fun _ => below.block handler
      | none => exact below.block handler
    | importModule path place =>
      refine (below.eval path).bind fun value => ?_
      split <;> exact failAt_keeps place _
    | exportName name place =>
      refine (slot?_keeps name).bind fun slot => ?_
      split
      · exact .pure _
      · exact failAt_keeps place _
  split
  · exact (tick_keeps invariant _).bind kept
  · exact kept ()

theorem assign_succ (operator : Option String) (target : Expr) (value : Value)
    (place : Position) :
    (Machine.assign setup (fuel + 1) operator target value place).Keeps holds := by
  unfold Machine.assign
  cases target with
  | variable_ name mark =>
    exact (incoming_keeps _ _ _ (lookUp_keeps setup name mark)).bind fun value =>
      (store_keeps invariant name value mark).bind fun _ => .pure _
  | self mark =>
    exact (incoming_keeps _ _ _ (receiver_keeps mark)).bind fun value =>
      ((receiver_keeps mark).map _).bind fun _ =>
        (setReceiver_keeps invariant value).bind fun _ => .pure _
  | chain root links =>
    exact (Keeps.mapM below.prepared links).bind fun steps =>
      ((below.follow root steps _).map _).bind fun _ => .pure _
  | _ => exact ((below.eval _).map _).bind fun _ => .pure _

theorem block_succ (body : List Stmt) : (Machine.block setup (fuel + 1) body).Keeps holds := by
  unfold Machine.block
  exact .inBlock invariant (.foldlM (fun _ statement => below.exec statement) body .unit)

theorem whileLoop_succ (condition : Option Expr) (body : List Stmt) (place : Position) :
    (Machine.whileLoop setup (fuel + 1) condition body place).Keeps holds := by
  unfold Machine.whileLoop
  refine (tick_keeps invariant place).bind fun _ => ?_
  refine (goesOn_keeps below.eval condition).bind fun again => ?_
  split
  · refine (below.block body).onePass.bind fun ended => ?_
    split
    · exact .pure _
    · exact below.whileLoop condition body place
  · exact .pure _

theorem doLoop_succ (body : List Stmt) (condition : Expr) (stopsOn : Bool) (place : Position) :
    (Machine.doLoop setup (fuel + 1) body condition stopsOn place).Keeps holds := by
  unfold Machine.doLoop
  refine (tick_keeps invariant place).bind fun _ => (below.block body).onePass.bind fun ended => ?_
  split
  · exact .pure _
  · refine (below.eval condition).bind fun value => (boolean_keeps _ value).bind fun verdict => ?_
    split
    · exact .pure _
    · exact below.doLoop body condition stopsOn place

theorem forLoop_succ (name : String) (course : Course) (body : List Stmt) (place : Position) :
    (Machine.forLoop setup (fuel + 1) name course body place).Keeps holds := by
  unfold Machine.forLoop
  split
  · exact .pure _
  · refine (tick_keeps invariant place).bind fun _ => (store_keeps invariant name _ place).bind
      fun _ => (below.block body).onePass.bind fun ended => ?_
    split
    · exact .pure _
    · exact below.forLoop name _ body place

end Kept

theorem kept_zero : Kept setup holds 0 where
  eval _ := failAt_keeps _ _
  prepared _ := fail_keeps _
  follow _ _ _ := failAt_keeps _ _
  walk _ _ _ := fail_keeps _
  method _ _ _ _ := failAt_keeps _ _
  call _ _ _ := failAt_keeps _ _
  ask _ _ _ := failAt_keeps _ _
  callDefined _ _ _ _ := failAt_keeps _ _
  invoke _ _ _ := failAt_keeps _ _
  callClosure _ _ _ _ _ := failAt_keeps _ _
  callNamed _ _ _ _ := failAt_keeps _ _
  exec _ := fail_keeps _
  assign _ _ _ _ := failAt_keeps _ _
  block _ := fail_keeps _
  whileLoop _ _ _ := failAt_keeps _ _
  doLoop _ _ _ _ := failAt_keeps _ _
  forLoop _ _ _ _ := failAt_keeps _ _

theorem Kept.succ {fuel : Nat} (below : Kept setup holds fuel)
    (invariant : Invariant setup holds) : Kept setup holds (fuel + 1) where
  eval := below.eval_succ invariant
  prepared := below.prepared_succ
  follow := below.follow_succ invariant
  walk := below.walk_succ
  method := below.method_succ
  call := below.call_succ invariant
  ask := below.ask_succ
  callDefined := below.callDefined_succ
  invoke := below.invoke_succ invariant
  callClosure := below.callClosure_succ invariant
  callNamed := below.callNamed_succ
  exec := below.exec_succ invariant
  assign := below.assign_succ invariant
  block := below.block_succ invariant
  whileLoop := below.whileLoop_succ invariant
  doLoop := below.doLoop_succ invariant
  forLoop := below.forLoop_succ invariant

theorem Invariant.kept (invariant : Invariant setup holds) (fuel : Nat) :
    Kept setup holds fuel := by
  induction fuel with
  | zero => exact kept_zero
  | succ fuel below => exact below.succ invariant

/-- Whatever a script does and however it ends, an invariant that held before holds after. -/
theorem Invariant.runScript (invariant : Invariant setup holds) (fuel : Nat)
    (script : List Stmt) : (runScript setup fuel script).Keeps holds :=
  (Keeps.foldlM (fun _ statement => (invariant.kept fuel).exec statement) script .unit).returned

end ApiProbe.Machine
