import ApiProbe.Proofs.Json.RoundTrip
import ApiProbe.Proofs.Machine.Documents
import ApiProbe.Proofs.Machine.Entering
import ApiProbe.Proofs.Script.MemberScripts
import ApiProbe.Sandbox

/-!
Members of the response that are read by their names. Such a script counts three operations and looks at the
size of the body; then its result is the member of the name that lowering leaves. So a member is read as it is
in the body if its name is put as it was and may stand behind a point, the settings allow the little that is
done, and no integer in it is too large.
-/
namespace ApiProbe.Machine
open Plain (Position memberChain)
variable {σ : Type} {setup : Setup σ} {state after : State σ} {place : Position} {fuel : Nat} {name : String}

section Member
variable {document : List (String × Json)} {response : Http.Response}

/-- The steps of the chain behind its root. -/
def memberSteps (name : String) : List Step :=
  [.property "response" false ⟨1, 4⟩, .method "json" [] false ⟨1, 13⟩, .property name false ⟨1, 20⟩]

/-- The body of the response is handed over as a value, which must not be too large. -/
theorem invoke_json (given : setup.world.response = some response)
    (read : Json.read response.body = .ok (.obj document)) :
    invoke setup (fuel + 1) "json" [.host .response] place = (do
      Run.tick setup place
      Run.checkSize setup place (.ofJson (.obj document))
      pure (.ofJson (.obj document), none)) := by
  let parsed : Run σ Value := do
    pure (.ofJson (← Probe.parse "Response body is not valid JSON" (← Probe.response setup).body))
  have reads : Probe.call? setup "json" [.host .response] = some parsed := rfl
  have body : parsed = pure (.ofJson (.obj document)) := by
    simp only [parsed, Probe.response, given, Probe.parse, read, pure_bind]
  have reply : Run.located place (pure (.just (.ofJson (.obj document))) : Run σ Reply) =
      pure (.just (.ofJson (.obj document))) := rfl
  rw [invoke]
  · simp only [Callback.call?, reads, body, pure_bind, reply]
    rfl
  all_goals simp

theorem walk_member (given : setup.world.response = some response)
    (read : Json.read response.body = .ok (.obj document)) :
    walk setup (fuel + 4) (.host .probe) (memberSteps name) .read = (do
      Run.tick setup ⟨1, 13⟩
      Run.checkSize setup ⟨1, 13⟩ (.ofJson (.obj document))
      pure ((Table.find? (Value.ofJsonMembers document) name).getD .unit, none)) := by
  have object : property setup (.host .probe) "response" ⟨1, 4⟩ = pure (.host .response) := by
    simp only [property, Probe.property?, Probe.response, given]
    rfl
  have called : method setup (fuel + 2) (.host .response) "json" [] ⟨1, 13⟩ = (do
      Run.tick setup ⟨1, 13⟩
      Run.checkSize setup ⟨1, 13⟩ (.ofJson (.obj document))
      pure (.ofJson (.obj document), none)) := by
    rw [method]
    · exact invoke_json given read
    all_goals simp
  have member : property setup (.ofJson (.obj document)) name ⟨1, 20⟩ =
      pure ((Table.find? (Value.ofJsonMembers document) name).getD .unit) := by
    rw [Value.ofJson, property]
  simp only [memberSteps, walk, Step.isOptional, Bool.false_and, Bool.false_eq_true, if_false, object, called,
    pure_bind, bind_assoc, member]
  rw [Value.ofJson]
  rfl

theorem tick_frame {value : Unit} (counted : Run.tick setup place state = .ok value after) :
    after.frame = state.frame := by
  unfold Run.tick at counted
  dsimp only at counted
  split at counted
  · cases counted
  split at counted
  · cases counted
  · cases counted
    rfl

theorem eval_memberChain (alone : setup.functions = []) (given : setup.world.response = some response)
    (read : Json.read response.body = .ok (.obj document)) (bare : state.frame.locals = []) :
    eval setup (fuel + 6) (memberChain name) state = (do
      Run.tick setup ⟨1, 1⟩
      Run.tick setup ⟨1, 13⟩
      Run.checkSize setup ⟨1, 13⟩ (.ofJson (.obj document))
      pure ((Table.find? (Value.ofJsonMembers document) name).getD .unit)) state := by
  have steps : [Plain.Link.property "response" false ⟨1, 4⟩, .method "json" [] false ⟨1, 13⟩,
      .property name false ⟨1, 20⟩].mapM (prepared setup (fuel + 5)) = pure (memberSteps name) := by
    have undefined : setup.defined? "json" 0 = none := by rw [Setup.defined?, alone, List.find?_nil]
    simp only [List.mapM_cons, List.mapM_nil, prepared, pure_bind, List.length_nil, undefined, memberSteps]
  rw [memberChain, eval]
  simp only [Plain.Expr.place, steps, pure_bind, follow]
  cases counted : Run.tick setup ⟨1, 1⟩ state with
  | error signal after => rw [Run.bind_error counted, Run.bind_error counted]
  | ok value middle =>
    have found : Run.slot? "pm" middle = .ok none middle := by
      change EStateM.Result.ok (middle.frame.locals.lookup "pm") middle = _
      rw [tick_frame counted, bare]
      rfl
    have object : setup.found? "pm" = some (.host .probe) := by
      rw [Setup.found?, alone]
      rfl
    have probe : Run.lookUp setup "pm" ⟨1, 1⟩ middle = .ok (.host .probe) middle := by
      rw [Run.lookUp, Run.bind_ok found]
      simp only [object]
      rfl
    rw [Run.bind_ok counted, Run.bind_ok counted, Run.bind_ok probe]
    simp only [walk_member given read, bind_assoc, pure_bind]

/-- Reading a member takes three operations and a look at the size of the body. -/
def readMember (setup : Setup σ) (document : List (String × Json)) (name : String) : Run σ Value := do
  Run.tick setup ⟨1, 1⟩
  Run.tick setup ⟨1, 1⟩
  Run.tick setup ⟨1, 13⟩
  Run.checkSize setup ⟨1, 13⟩ (.ofJson (.obj document))
  pure ((Table.find? (Value.ofJsonMembers document) name).getD .unit)

theorem exec_memberChain (alone : setup.functions = []) (given : setup.world.response = some response)
    (read : Json.read response.body = .ok (.obj document)) (bare : state.frame.locals = []) :
    exec setup (fuel + 7) (.expression (memberChain name)) state = readMember setup document name state := by
  rw [exec]
  simp only [stmtPlace?, memberChain, Plain.Expr.place]
  cases counted : Run.tick setup ⟨1, 1⟩ state with
  | error signal after => rw [readMember, Run.bind_error counted, Run.bind_error counted]
  | ok value middle =>
    have further : middle.frame.locals = [] := by rw [tick_frame counted, bare]
    rw [readMember, Run.bind_ok counted, Run.bind_ok counted]
    exact eval_memberChain alone given read further

/-- A script of an expression has its value. -/
theorem runScript_expression {value : Plain.Expr} :
    runScript setup fuel [.expression value] = returned (exec setup fuel (.expression value)) := by
  rw [runScript]
  simp

theorem exists_tooLarge {limits : Plain.Limits} {value : Value} {fault : Fault}
    (large : oversized? limits value = some fault) : ∃ bulk, fault = .tooLarge bulk := by
  simp only [oversized?] at large
  repeat' split at large
  all_goals first
    | cases large; exact ⟨_, rfl⟩
    | cases large

/-- How many operations and how large a body the settings must allow. -/
structure Affords (maxOperations : Nat) (limits : Plain.Limits) (document : List (String × Json)) : Prop where
  operations : maxOperations = 0 ∨ 3 ≤ maxOperations
  size : oversized? limits (.ofJson (.obj document)) = none

/-- Up to the first look at the clock, only the limit of operations stops a script. -/
theorem tick_early (early : state.operations + 1 < clockInterval) :
    Run.tick setup place state =
      if setup.maxOperations = 0 ∨ state.operations + 1 ≤ setup.maxOperations then
        .ok () { state with operations := state.operations + 1, ticks := state.ticks + 1 }
      else .error (.failure ⟨.tooManyOperations, some place, []⟩)
        { state with operations := state.operations + 1, ticks := state.ticks + 1 } := by
  have small : ((state.operations + 1) % clockInterval == 0) = false := by
    rw [Nat.mod_eq_of_lt early]
    rfl
  have beyond : (setup.maxOperations != 0 && decide (state.operations + 1 > setup.maxOperations)) = true ↔
      ¬(setup.maxOperations = 0 ∨ state.operations + 1 ≤ setup.maxOperations) := by
    rw [not_or, Nat.not_le, Bool.and_eq_true, bne_iff_ne, decide_eq_true_eq]
  simp only [Run.tick, beyond, small, Bool.false_and, Bool.false_eq_true, if_false, ite_not]

/-- A state in which so many operations have been counted, and nothing else done. -/
def State.counted (vars : σ) (n : Nat) : State σ := { State.initial vars with operations := n, ticks := n }

theorem tick_ok {vars : σ} {n : Nat} (early : n + 1 < clockInterval)
    (within : setup.maxOperations = 0 ∨ n + 1 ≤ setup.maxOperations) :
    Run.tick setup place (.counted vars n) = .ok () (.counted vars (n + 1)) :=
  (tick_early early).trans (if_pos within)

theorem tick_error {vars : σ} {n : Nat} (early : n + 1 < clockInterval)
    (beyond : ¬(setup.maxOperations = 0 ∨ n + 1 ≤ setup.maxOperations)) :
    Run.tick setup place (.counted vars n) =
      .error (.failure ⟨.tooManyOperations, some place, []⟩) (.counted vars (n + 1)) :=
  (tick_early early).trans (if_neg beyond)

theorem readMember_ok (affords : Affords setup.maxOperations setup.limits document) (vars : σ) :
    readMember setup document name (.counted vars 0) =
      .ok ((Table.find? (Value.ofJsonMembers document) name).getD .unit) (.counted vars 3) := by
  have within := affords.operations
  have fits : Run.checkSize setup ⟨1, 13⟩ (.ofJson (.obj document)) (.counted vars 3) =
      .ok () (.counted vars 3) := by
    rw [Run.checkSize, affords.size]
    rfl
  rw [readMember, Run.bind_ok (tick_ok (by decide) (by omega)), Run.bind_ok (tick_ok (by decide) (by omega)),
    Run.bind_ok (tick_ok (by decide) (by omega)), Run.bind_ok fits]
  rfl

theorem readMember_error (setup : Setup σ) (name : String)
    (poor : ¬Affords setup.maxOperations setup.limits document) (vars : σ) :
    ∃ fault place n, readMember setup document name (.counted vars 0) =
        .error (.failure ⟨fault, some place, []⟩) (.counted vars n) ∧ place.line = 1 ∧
      (fault = .tooManyOperations ∨ ∃ bulk, fault = .tooLarge bulk) := by
  -- Each of the operations may be the one that is too many.
  by_cases first : setup.maxOperations = 0 ∨ 0 + 1 ≤ setup.maxOperations
  case neg =>
    exact ⟨_, _, _, Run.bind_error (tick_error (by decide) first), rfl, .inl rfl⟩
  by_cases second : setup.maxOperations = 0 ∨ 1 + 1 ≤ setup.maxOperations
  case neg =>
    rw [readMember, Run.bind_ok (tick_ok (by decide) first), Run.bind_error (tick_error (by decide) second)]
    exact ⟨_, _, _, rfl, rfl, .inl rfl⟩
  by_cases third : setup.maxOperations = 0 ∨ 2 + 1 ≤ setup.maxOperations
  case neg =>
    rw [readMember, Run.bind_ok (tick_ok (by decide) first), Run.bind_ok (tick_ok (by decide) second),
      Run.bind_error (tick_error (by decide) third)]
    exact ⟨_, _, _, rfl, rfl, .inl rfl⟩
  cases large : oversized? setup.limits (.ofJson (.obj document)) with
  | none => exact absurd ⟨third, large⟩ poor
  | some fault =>
    have refused : Run.checkSize setup ⟨1, 13⟩ (.ofJson (.obj document)) (.counted vars 3) =
        .error (.failure ⟨fault, some ⟨1, 13⟩, []⟩) (.counted vars 3) := by
      rw [Run.checkSize, large]
      rfl
    rw [readMember, Run.bind_ok (tick_ok (by decide) first), Run.bind_ok (tick_ok (by decide) second),
      Run.bind_ok (tick_ok (by decide) third), Run.bind_error refused]
    exact ⟨_, _, _, rfl, rfl, .inr (exists_tooLarge large)⟩

end Member

end ApiProbe.Machine

namespace ApiProbe.Sandbox
open Machine Plain Script.Lowering
variable {response : Http.Response} {members : List (String × Json)} {name : String} {member : Json}

/-- What a script reports of a member: nothing of one that is null or missing. -/
def seen (members : List (String × Json)) (name : String) : Option Json :=
  ((Table.find? members name).filter fun member => !member.isNull).map fun member =>
    (Value.ofJson member).toJson

theorem find?_ofJsonMembers (members : List (String × Json)) (name : String) :
    Table.find? (Value.ofJsonMembers members) name = (Table.find? members name).map Value.ofJson := by
  have mapped : Value.ofJsonMembers members = Table.mapValues Value.ofJson members := by
    induction members with
    | nil => rfl
    | cons entry rest ih =>
      obtain ⟨key, value⟩ := entry
      rw [Value.ofJsonMembers, ih]
      rfl
  rw [mapped, Table.find?_mapValues]

theorem isUnit_ofJson (document : Json) : (Value.ofJson document).isUnit = document.isNull := by
  cases document with
  | int n =>
    rw [Value.ofJson]
    split <;> rfl
  | _ => rfl

theorem resultOf_member (members : List (String × Json)) (name : String) :
    resultOf ((Table.find? (Value.ofJsonMembers members) name).getD .unit) = seen members name := by
  rw [find?_ofJsonMembers, seen]
  cases Table.find? members name with
  | none => rfl
  | some member =>
    rw [Option.map_some, Option.getD_some, resultOf, isUnit_ofJson, Option.filter_some]
    cases member.isNull <;> rfl

theorem pruned_memberChain : Plain.Script.pruned ⟨[], [.expression (memberChain name)]⟩ =
    ⟨[], [.expression (memberChain name)]⟩ := by
  rfl

/-- A name stays an identifier when it is put differently. -/
theorem isIdentifier_renamed (identifier : isIdentifier name = true) :
    isIdentifier (renamed name) = true := by
  unfold renamed
  split
  case h_9 => exact identifier
  all_goals decide

theorem prepare_memberScript (settings : Settings) (identifier : isIdentifier name = true)
    (fits : isMemberName (renamed name) = true) :
    prepare settings .javaScript (memberScript name) = .ok ⟨[], [.expression (memberChain (renamed name))]⟩ := by
  rw [prepare, Script.lower_memberScript identifier]
  simp only [read_memberScript (limits settings) (isIdentifier_renamed identifier) fits, pruned_memberChain]

theorem prepare_memberScript_error (settings : Settings) (identifier : isIdentifier name = true)
    (unfit : isMemberName (renamed name) = false) :
    ∃ fault, prepare settings .javaScript (memberScript name) = .error (.notRead ⟨fault, ⟨1, 20⟩⟩) := by
  obtain ⟨fault, refused⟩ := read_memberScript_error (limits settings) (isIdentifier_renamed identifier) unfit
  refine ⟨fault, ?_⟩
  rw [prepare, Script.lower_memberScript identifier]
  simp only [refused]

/-- A script without functions runs in the setup that all scripts share. -/
theorem setupFor_alone {σ : Type} (settings : Settings) (world : World σ) (body : List Stmt) :
    setupFor settings world ⟨[], body⟩ = setup settings world :=
  rfl

theorem evaluate_memberChain {σ : Type} (settings : Settings) (world : World σ) (vars : σ) (name : String)
    (given : world.response = some response)
    (read : Json.read response.body = .ok (.obj members)) :
    ∃ report, evaluate settings world vars ⟨[], [.expression (memberChain name)]⟩ = .ok (report, vars) ∧
      report.logs = [] ∧ report.tests = [] ∧
      (Affords settings.maxOperations (limits settings) members → report.outcome = .ok (seen members name)) ∧
      (¬Affords settings.maxOperations (limits settings) members →
        ∃ message, report.outcome = .error (.failed message (some 1))) := by
  have enough : fuel settings = 16 * settings.timeout * ticksPerMilli + 4089 + 7 := rfl
  have same : exec (setup settings world) (fuel settings) (.expression (memberChain name)) (.initial vars) =
      readMember (setup settings world) members name (.counted vars 0) := by
    rw [enough]
    exact exec_memberChain rfl given read rfl
  by_cases affords : Affords settings.maxOperations (limits settings) members
  · have done : runScript (setup settings world) (fuel settings) [.expression (memberChain name)]
        (.initial vars) =
          .ok ((Table.find? (Value.ofJsonMembers members) name).getD .unit) (.counted vars 3) := by
      rw [runScript_expression, returned, same, readMember_ok affords]
    refine ⟨⟨.ok (seen members name), [], []⟩, ?_, rfl, rfl, fun _ => rfl, fun poor => absurd affords poor⟩
    rw [evaluate, setupFor_alone, done]
    simp only [resultOf_member]
    rfl
  · obtain ⟨fault, place, n, failed, line, kind⟩ := readMember_error (setup settings world) name affords vars
    have done : runScript (setup settings world) (fuel settings) [.expression (memberChain name)]
        (.initial vars) = .error (.failure ⟨fault, some place, []⟩) (.counted vars n) := by
      rw [runScript_expression, returned, same, failed]
    have reported : evaluate settings world vars ⟨[], [.expression (memberChain name)]⟩ =
        .ok (report (.error (.failed fault.message (some 1))) (.counted vars n)) := by
      rw [evaluate, setupFor_alone, done]
      rcases kind with rfl | ⟨bulk, rfl⟩ <;>
        simp only [errorOf, Failure.line?, Option.some_or, Option.map_some, line]
    exact ⟨⟨.error (.failed fault.message (some 1)), [], []⟩, reported.trans rfl, rfl, rfl,
      fun rich => absurd rich affords, fun _ => ⟨_, rfl⟩⟩

/-- A script that reads a member of the response leaves variables, log and tests as they are. A name that is
put differently behind a point is looked for under the other name. A name that is a word of the language then,
or has no letter in front of its digits, is refused. All others are read, under settings that allow three
operations and a body of such a size; the result is the member as it is reported, unless an integer in it is
too large. -/
theorem member_readable_iff (settings : Settings) (access : Access) (start : Store) (request : Http.Request)
    (read : Json.read response.body = .ok (.obj members)) (identifier : isIdentifier name = true)
    (found : Table.find? members name = some member) (present : member ≠ .null) :
    ∃ report, run settings (some .javaScript) access start request (some response) (memberScript name) =
        .ok (report, ⟨start, access⟩) ∧ report.logs = [] ∧ report.tests = [] ∧
      (isMemberName (renamed name) = false → ∃ fault, report.outcome = .error (.notRead ⟨fault, ⟨1, 20⟩⟩)) ∧
      (isMemberName (renamed name) = true → Affords settings.maxOperations (limits settings) members →
        report.outcome = .ok (seen members (renamed name))) ∧
      (isMemberName (renamed name) = true → ¬Affords settings.maxOperations (limits settings) members →
        ∃ message, report.outcome = .error (.failed message (some 1))) ∧
      (renamed name = name → (report.outcome = .ok (some member.reported) ↔
        isMemberName name = true ∧ Affords settings.maxOperations (limits settings) members ∧
          member.inRange = true)) := by
  have own : seen members name = some (Value.ofJson member).toJson := by
    have some_ : member.isNull = false := by
      cases member <;> first | rfl | exact absurd rfl present
    rw [seen, found, Option.filter_some, some_]
    rfl
  cases fits : isMemberName (renamed name) with
  | false =>
    obtain ⟨fault, refused⟩ := prepare_memberScript_error settings identifier fits
    refine ⟨⟨.error (.notRead ⟨fault, ⟨1, 20⟩⟩), [], []⟩, ?_, rfl, rfl, fun _ => ⟨fault, rfl⟩, nofun, nofun,
      ?_⟩
    · rw [run, Option.getD_some, refused]
    · intro same
      rw [same] at fits
      exact iff_of_false nofun fun fine => absurd fine.1 (by simp [fits])
  | true =>
    obtain ⟨report, done, logs, tests, allowed, stopped⟩ := evaluate_memberChain settings
      (world settings request (some response)) (⟨start, access⟩ : Handle) (renamed name) rfl read
    refine ⟨report, ?_, logs, tests, nofun, fun _ => allowed, fun _ => stopped, fun same => ?_⟩
    · rw [run, Option.getD_some, prepare_memberScript settings identifier fits]
      exact done
    · rw [same] at fits allowed
      by_cases affords : Affords settings.maxOperations (limits settings) members
      · rw [allowed affords, own, Except.ok.injEq, Option.some.injEq, Json.toJson_ofJson_iff]
        exact ⟨fun range => ⟨fits, affords, range⟩, fun fine => fine.2.2⟩
      · obtain ⟨message, failed⟩ := stopped affords
        rw [failed]
        exact iff_of_false nofun fun fine => affords fine.2.1

/-- A member that is called default is looked for under another name, one that is called case is refused. -/
theorem member_readable_iff_default :
    let body := "\x7b\n  \"case\": 1,\n  \"default\": 7\n\x7d"
    let response : Http.Response := ⟨200, "OK", [], body, 0, 31⟩
    let read (name : String) := run .default (some .javaScript) (.limited [] .script) (Store.empty 10 5 ⟨0⟩)
      ⟨.get, "http://localhost", [], none⟩ (some response) (memberScript name)
    (∃ report handle, read "default" = .ok (report, handle) ∧ report.outcome = .ok none) ∧
      ∃ report handle, read "case" = .ok (report, handle) ∧ report.succeeded = false := by
  intro body response read
  have readable : Json.Readable Json.maxDepth (.obj [("case", .int 1), ("default", .int 7)]) := by
    simp [Json.Readable, Json.ReadableMembers, Json.maxDepth, Json.Number.maxWhole]
  have written : response.body = (Json.obj [("case", .int 1), ("default", .int 7)]).pretty := by rfl
  have document : Json.read response.body = .ok (.obj [("case", .int 1), ("default", .int 7)]) := by
    rw [written, Json.read_pretty readable]
    rfl
  have affords :
      Affords Settings.default.maxOperations (limits .default) [("case", .int 1), ("default", .int 7)] :=
    ⟨by decide, by rfl⟩
  constructor
  · obtain ⟨report, done, -, -, -, seen, -⟩ :=
      @member_readable_iff response _ "default" (.int 7) .default (.limited [] .script) (Store.empty 10 5 ⟨0⟩)
        ⟨.get, "http://localhost", [], none⟩ document (by decide) rfl nofun
    exact ⟨report, _, done, seen (by decide) affords⟩
  · obtain ⟨report, done, -, -, refused, -⟩ :=
      @member_readable_iff response _ "case" (.int 1) .default (.limited [] .script) (Store.empty 10 5 ⟨0⟩)
        ⟨.get, "http://localhost", [], none⟩ document (by decide) rfl nofun
    obtain ⟨fault, failed⟩ := refused (by decide)
    exact ⟨report, _, done, by rw [ScriptReport.succeeded, failed]⟩

end ApiProbe.Sandbox
