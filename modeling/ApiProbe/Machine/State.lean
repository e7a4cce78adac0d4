import ApiProbe.Machine.Fault
import ApiProbe.Plain.Reader
import ApiProbe.Http.Message
import ApiProbe.Variable.Error
import ApiProbe.Abort

/-!
The state of a running script, and what may interrupt it. What the script can reach outside of itself
is a world; the variables it keeps there are a state of their own, of any type.
-/
namespace ApiProbe.Machine

/-- What a script can read and change outside of itself. -/
structure World (σ : Type) where
  request : Http.Request
  response : Option Http.Response
  /-- Scope of extracted values that are given a name. -/
  extractionScope : Scope
  canWrite : σ → Scope → Bool
  find? : σ → String → Option Scope → Option String
  /-- Sets a variable, if that is allowed. -/
  write : σ → String → String → Scope → Except VariableError σ
  /-- Keeps an extracted value, allowed or not. -/
  keep : σ → String → String → Scope → Except VariableError σ
  /-- Removes a variable; the flag says whether there was one. -/
  erase : σ → String → Scope → Except VariableError (Bool × σ)

/-- The conditions of a run, with the functions that the script defines. A limit of zero steps is no
limit. -/
structure Setup (σ : Type) where
  world : World σ
  functions : List Plain.Function
  limits : Plain.Limits
  maxOperations : Nat
  maxTicks : Nat
  maxLevels : Nat
  maxLines : Nat

/-- The function that a script defines for so many arguments. -/
def Setup.defined? {σ : Type} (setup : Setup σ) (name : String) (count : Nat) : Option Plain.Function :=
  setup.functions.find? fun f => f.name == name && f.params.length == count

/-- Objects that a script finds under a name that it has not declared. -/
def constant? : String → Option Value
  | "pm" => some (.host .probe)
  | "console" => some (.host .console)
  | "JSON" => some (.host .json)
  | _ => none

/-- What a script finds under a name that is not one of its variables: a function of its own, or an
object. -/
def Setup.found? {σ : Type} (setup : Setup σ) (name : String) : Option Value :=
  if setup.functions.any (·.name == name) then some (.closure (.named name) []) else constant? name

/-- A test of a script, with the reason if it failed. -/
structure TestResult where
  name : String
  error : Option String
  deriving Repr, DecidableEq

namespace TestResult

def passed (test : TestResult) : Bool := test.error.isNone

end TestResult

/-- Lines of a log, newest first, and the number of those that were too many. -/
structure Log where
  lines : List String
  dropped : Nat
  deriving Repr, DecidableEq

namespace Log

def empty : Log := ⟨[], 0⟩

def add (log : Log) (limit : Nat) (line : String) : Log :=
  if log.lines.length < limit then { log with lines := line :: log.lines }
  else { log with dropped := log.dropped + 1 }

/-- All lines, oldest first, with a word on those that were dropped. -/
def all (log : Log) : List String :=
  log.lines.reverse
    ++ if log.dropped == 0 then [] else [s!"... {log.dropped} more log lines dropped"]

end Log

/-- The variables of the running function, newest first, its receiver, and the depth of calls. -/
structure Frame where
  locals : List (String × Slot Value)
  self : Option Value
  level : Nat

namespace Frame

def initial : Frame := ⟨[], none, 0⟩

end Frame

/-- `operations` are those that the limit counts, `ticks` are all that took time. -/
structure State (σ : Type) where
  operations : Nat
  ticks : Nat
  cells : Array Value
  frame : Frame
  log : Log
  /-- Newest first. -/
  tests : List TestResult
  vars : σ

namespace State

def initial {σ : Type} (vars : σ) : State σ := ⟨0, 0, #[], .initial, .empty, [], vars⟩

end State

/-- What ends an evaluation before its end. -/
inductive Signal
  | failure (failure : Failure)
  | leave (value : Value)
  | next
  | giveBack (value : Value)
  | abort (reason : Abort)

/-- An evaluation, which keeps what it did even when it is interrupted. -/
abbrev Run (σ α : Type) := EStateM Signal (State σ) α

/-- How often, in operations, the clock is looked at. -/
def clockInterval : Nat := 128

namespace Run
variable {σ α : Type}

def fail (fault : Fault) : Run σ α := throw (.failure (.ofFault fault))

def failAt (place : Plain.Position) (fault : Fault) : Run σ α :=
  throw (.failure ⟨fault, some place, []⟩)

def ofExcept : Except Fault α → Run σ α
  | .ok value => pure value
  | .error fault => fail fault

/-- Says where failures without a place arose. -/
def located (place : Plain.Position) (run : Run σ α) : Run σ α := fun state =>
  match run state with
  | .error (.failure failure) after => .error (.failure (failure.placed place)) after
  | outcome => outcome

/-- Counts an operation, and stops the script if it takes too many or too long. -/
def tick (setup : Setup σ) (place : Plain.Position) : Run σ Unit := fun state =>
  let operations := state.operations + 1
  let ticks := state.ticks + 1
  let after := { state with operations, ticks }
  if setup.maxOperations != 0 && operations > setup.maxOperations then
    .error (.failure ⟨.tooManyOperations, some place, []⟩) after
  else if operations % clockInterval == 0 && ticks ≥ setup.maxTicks then
    .error (.failure ⟨.terminated, some place, []⟩) after
  else .ok () after

/-- Changes the frame whatever comes of an evaluation. -/
def restoring (restore : Frame → Frame → Frame) (run : Run σ α) : Run σ α := fun state =>
  match run state with
  | .ok value after => .ok value { after with frame := restore state.frame after.frame }
  | .error signal after => .error signal { after with frame := restore state.frame after.frame }

/-- Forgets the variables that an evaluation declares. -/
def inBlock (run : Run σ α) : Run σ α :=
  restoring (fun before after =>
    { after with locals := after.locals.drop (after.locals.length - before.locals.length) }) run

/-- Evaluates in a frame of its own, and gives back what became of the receiver. -/
def inFrame (frame : Frame) (run : Run σ α) : Run σ (α × Option Value) :=
  restoring (fun before _ => before) do
    modify fun state => { state with frame }
    let value ← run
    pure (value, (← get).frame.self)

/-- Evaluates on behalf of a function outside of the script: its operations are not counted with
those of the script, and it is one level further down. -/
def fromOutside (run : Run σ α) : Run σ α := fun state =>
  let frame := { state.frame with level := state.frame.level + 1 }
  match run { state with frame } with
  | .ok value after =>
    .ok value { after with operations := state.operations, frame := state.frame }
  | .error signal after =>
    .error signal { after with operations := state.operations, frame := state.frame }

def print (setup : Setup σ) (line : String) : Run σ Unit :=
  modify fun state => { state with log := state.log.add setup.maxLines line }

def report (test : TestResult) : Run σ Unit :=
  modify fun state => { state with tests := test :: state.tests }

end Run

/-- The fault of a value that has grown beyond a limit. -/
def oversized? (limits : Plain.Limits) (value : Value) : Option Fault :=
  let extent := value.extent
  if Plain.Limits.exceeded limits.text extent.bytes then some (.tooLarge .text)
  else if Plain.Limits.exceeded limits.list extent.items then some (.tooLarge .list)
  else if Plain.Limits.exceeded limits.record extent.members then some (.tooLarge .record)
  else none

namespace Run
variable {σ α : Type}

/-- Refuses a value that has grown beyond a limit. -/
def checkSize (setup : Setup σ) (place : Plain.Position) (value : Value) : Run σ Unit :=
  match oversized? setup.limits value with
  | some fault => failAt place fault
  | none => pure ()

def readSlot (slot : Slot Value) : Run σ Value :=
  match slot with
  | .own value => pure value
  | .shared cell => do pure (((← get).cells[cell]?).getD .unit)

/-- The slot of a local variable. -/
def slot? (name : String) : Run σ (Option (Slot Value)) := do
  pure ((← get).frame.locals.lookup name)

/-- Puts a slot in place of that of a local variable. -/
def replaceSlot (name : String) (slot : Slot Value) : Run σ Unit :=
  modify fun state =>
    { state with frame := { state.frame with locals := replaced name slot state.frame.locals } }
where
  replaced (name : String) (slot : Slot Value) :
      List (String × Slot Value) → List (String × Slot Value)
    | [] => []
    | (key, old) :: rest =>
      if key == name then (key, slot) :: rest else (key, old) :: replaced name slot rest

def declare (name : String) (value : Value) : Run σ Unit :=
  modify fun state =>
    { state with frame := { state.frame with locals := (name, .own value) :: state.frame.locals } }

/-- Value of a name. -/
def lookUp (setup : Setup σ) (name : String) (place : Plain.Position) : Run σ Value := do
  match ← slot? name with
  | some slot => readSlot slot
  | none =>
    match setup.found? name with
    | some value => pure value
    | none => failAt place (.variableNotFound name)

/-- Gives a local variable another value; the flag says whether there is one. -/
def update (name : String) (value : Value) : Run σ Bool := do
  match ← slot? name with
  | some (.own _) =>
    replaceSlot name (.own value)
    pure true
  | some (.shared cell) =>
    modify fun state => { state with cells := state.cells.setIfInBounds cell value }
    pure true
  | none => pure false

/-- Gives a variable another value. -/
def store (setup : Setup σ) (name : String) (value : Value) (place : Plain.Position) :
    Run σ Unit := do
  if !(← update name value) then
    match setup.found? name with
    | some _ => failAt place (.constantTarget name)
    | none => failAt place (.variableNotFound name)

/-- The receiver of the running function. -/
def receiver (place : Plain.Position) : Run σ Value := do
  match (← get).frame.self with
  | some value => pure value
  | none => failAt place .unboundSelf

def setReceiver (value : Value) : Run σ Unit :=
  modify fun state => { state with frame := { state.frame with self := some value } }

/-- Hands a variable to a closure: from now on both share it. -/
def share (name : String) (place : Plain.Position) : Run σ (Slot Value) := do
  match ← slot? name with
  | some (.shared cell) => pure (.shared cell)
  | some (.own value) =>
    let cell := (← get).cells.size
    modify fun state => { state with cells := state.cells.push value }
    replaceSlot name (.shared cell)
    pure (.shared cell)
  | none =>
    match constant? name with
    | some value => pure (.own value)
    | none => failAt place (.variableNotFound name)

end Run
end ApiProbe.Machine
