import ApiProbe.Script.Lowering
import ApiProbe.Plain.Pruning
import ApiProbe.Machine.Evaluation
import ApiProbe.Variable.Access
import ApiProbe.Settings

/-!
Running scripts. A script is lowered to the plain language, read and evaluated, under the limits of
the settings and with the access to variables that it is given. Whatever it did before it failed
stays done.
-/
namespace ApiProbe

inductive ScriptError
  | timeout
  | failed (message : String) (line : Option Nat)
  | notLowered (error : Script.SyntaxError)
  | notRead (error : Plain.ReadError)
  deriving Repr, DecidableEq

namespace ScriptError

def located (message : String) : Option Nat → String
  | some line => s!"{message} (line {line})"
  | none => message

def message : ScriptError → String
  | .timeout => "timeout"
  | .failed message line => located message line
  | .notLowered error => error.message
  | .notRead error => s!"Syntax error: {error.fault.reason} (line {error.place.line})"

end ScriptError

/-- What came of a script: the value of its last statement, unless that is the unit. -/
structure ScriptReport where
  outcome : Except ScriptError (Option Json)
  logs : List String
  tests : List Machine.TestResult

namespace ScriptReport

def succeeded (report : ScriptReport) : Bool :=
  match report.outcome with
  | .ok _ => true
  | .error _ => false

def passed (report : ScriptReport) : Nat :=
  (report.tests.filter Machine.TestResult.passed).length

def failed (report : ScriptReport) : Nat := report.tests.length - report.passed

def allPassed (report : ScriptReport) : Bool := report.tests.all Machine.TestResult.passed

/-- True if the script is reported to have run out of time. -/
def isTimeout (report : ScriptReport) : Bool :=
  match report.outcome with
  | .error error => error.message == ScriptError.timeout.message
  | .ok _ => false

def testJson (test : Machine.TestResult) : Json :=
  .obj ([("name", .str test.name), ("passed", .bool test.passed)]
    ++ (test.error.map fun error => ("error", Json.str error)).toList)

/-- The members of a report's document; `describe` words the error. -/
def members (describe : ScriptError → String) (report : ScriptReport) : List (String × Json) :=
  let outcome :=
    match report.outcome with
    | .ok value => (value.map fun value => ("result", value)).toList
    | .error error => [("error", .str (describe error))]
  [("success", .bool report.succeeded)] ++ outcome
    ++ [("logs", .arr (report.logs.map .str)), ("testResults", .arr (report.tests.map testJson))]

/-- A report of a run that took some milliseconds. -/
def toJson (millis : Nat) (report : ScriptReport) : Json :=
  .obj (members ScriptError.message report ++ [("durationMs", .int millis)])

end ScriptReport

namespace Sandbox
open Machine

/-- What a script reads and changes: a request, maybe a response, and the variables that a handle
gives access to. -/
def world (settings : Settings) (request : Http.Request) (response : Option Http.Response) :
    World Handle where
  request
  response
  extractionScope := settings.extractionScope
  canWrite := Handle.canWrite
  find? := Handle.get?
  write := Handle.set
  keep := Handle.keep
  erase := Handle.unset

/-- Operations that a script is taken to do in a millisecond. -/
def ticksPerMilli : Nat := 2000

def limits (settings : Settings) : Plain.Limits :=
  ⟨settings.maxStringSize, settings.maxArraySize, settings.maxMapSize⟩

def setup {σ : Type} (settings : Settings) (world : World σ) : Setup σ where
  world
  functions := []
  limits := limits settings
  maxOperations := settings.maxOperations
  maxTicks := settings.timeout * ticksPerMilli
  maxLevels := settings.maxCallLevels
  maxLines := settings.maxLogEntries

/-- The setup of a script, with the functions that it defines. -/
def setupFor {σ : Type} (settings : Settings) (world : World σ) (script : Plain.Script) : Setup σ :=
  { setup settings world with functions := script.functions }

/-- More than any evaluation can use up before the clock stops it: there are only so many steps from
one operation to the next. -/
def fuel (settings : Settings) : Nat := 16 * settings.timeout * ticksPerMilli + 4096

/-- Why a script failed. -/
def errorOf (failure : Failure) : ScriptError :=
  match failure.fault with
  | .terminated => .timeout
  | fault => .failed fault.message failure.line?

def resultOf (value : Value) : Option Json := if value.isUnit then none else some value.toJson

def report {σ : Type} (outcome : Except ScriptError (Option Json)) (state : State σ) :
    ScriptReport × σ :=
  (⟨outcome, state.log.all, state.tests.reverse⟩, state.vars)

/-- Evaluates a script that has been read. -/
def evaluate {σ : Type} (settings : Settings) (world : World σ) (vars : σ)
    (script : Plain.Script) : Except Abort (ScriptReport × σ) :=
  match runScript (setupFor settings world script) (fuel settings) script.body (.initial vars) with
  | .ok value state => .ok (report (.ok (resultOf value)) state)
  | .error (.failure failure) state =>
    match failure.fault with
    | .ended value => .ok (report (.ok (resultOf value)) state)
    | _ => .ok (report (.error (errorOf failure)) state)
  | .error (.abort reason) _ => .error reason
  | .error _ state => .ok (report (.ok none) state)

/-- Lowers and reads a script. -/
def prepare (settings : Settings) (language : Language) (script : String) :
    Except ScriptError Plain.Script :=
  match Script.Lowering.lower language script with
  | .error error => .error (.notLowered error)
  | .ok plain =>
    match Plain.read (limits settings) plain with
    | .error error => .error (.notRead error)
    | .ok script => .ok script.pruned

/-- Runs a script in a language, or in that of the settings. -/
def run (settings : Settings) (language : Option Language) (access : Access) (start : Store)
    (request : Http.Request) (response : Option Http.Response) (script : String) :
    Except Abort (ScriptReport × Handle) :=
  let untouched : Handle := ⟨start, access⟩
  match prepare settings (language.getD settings.language) script with
  | .error error => .ok (⟨.error error, [], []⟩, untouched)
  | .ok plain => evaluate settings (world settings request response) untouched plain

end Sandbox
end ApiProbe
