import ApiProbe.Machine.Value

/-!
What goes wrong in a running script. Most faults can be caught by the script; those that stop it
because it takes too much cannot.
-/
namespace ApiProbe.Machine

/-- What may grow beyond its limit. -/
inductive Bulk
  | text | list | record
  deriving Repr, DecidableEq

inductive Fault
  | thrown (value : Value)
  | functionNotFound (name : String) (args : List Value)
  | noFunctionName (text : String)
  | reserved (text : String)
  | variableNotFound (name : String)
  | moduleNotFound (name : String)
  | unknownProperty (name kind : String)
  | fixedProperty (name kind given : String)
  | mismatch (expected found : String)
  | listBounds (size : Nat) (index : Int)
  | textBounds (size : Nat) (index : Int)
  | bitBounds (index : Int)
  | notIndexable (kind key : String)
  | notIterable
  | mixedList
  | unboundSelf
  | constantTarget (name : String)
  | arithmetic (reason : String)
  | tooManyOperations
  | stackOverflow
  | tooLarge (bulk : Bulk)
  | terminated
  /-- Asked for by the script itself: it ends with a value. -/
  | ended (value : Value)

namespace Fault

/-- A function and the kinds of its arguments. -/
def signature (name : String) (args : List Value) : String :=
  let kinds := ", ".intercalate (args.map Value.argumentKind)
  s!"{name} ({kinds})"

def listBoundsText (size : Nat) (index : Int) : String :=
  s!"Array index {index} out of bounds: " ++
    match size with
    | 0 => "array is empty"
    | 1 => "only 1 element in array"
    | n => s!"only {n} elements in array"

def textBoundsText (size : Nat) (index : Int) : String :=
  s!"String index {index} out of bounds: " ++
    match size with
    | 0 => "string is empty"
    | 1 => "only 1 character in string"
    | n => s!"only {n} characters in string"

def Bulk.what : Bulk → String
  | .text => "Length of string"
  | .list => "Size of array/BLOB"
  | .record => "Size of object map"

/-- What a script or its author is told. -/
def message : Fault → String
  | .thrown value => value.display
  | .functionNotFound name args => s!"Function not found: {signature name args}"
  | .noFunctionName text => s!"Function not found: {text}"
  | .reserved text =>
    let what := if Plain.isName text.toList then "keyword" else "symbol"
    s!"Syntax error: '{text}' is a reserved {what}"
  | .variableNotFound name => s!"Variable not found: {name}"
  | .moduleNotFound name => s!"Module not found: {name}"
  | .unknownProperty name kind =>
    s!"Unknown property '{name}' - a getter is not registered for type '{kind}'"
  | .fixedProperty name kind given =>
    s!"No writable property '{name}' - a setter is not registered for type '{kind}' to handle "
      ++ s!"'{given}'"
  | .mismatch expected found => s!"Data type incorrect: {found} (expecting {expected})"
  | .listBounds size index => listBoundsText size index
  | .textBounds size index => textBoundsText size index
  | .bitBounds index => s!"Bit-field index {index} out of bounds: only 64 bits in bit-field"
  | .notIndexable kind key => s!"Indexer unavailable: {kind} [{key}]"
  | .notIterable => "For loop expects iterable type"
  | .mixedList =>
    "Function not found: sort() cannot be called with elements of different types"
  | .unboundSelf => "'this' not bound"
  | .constantTarget name => s!"Cannot modify constant {name}"
  | .arithmetic reason => reason
  | .tooManyOperations => "Too many operations"
  | .stackOverflow => "Stack overflow"
  | .tooLarge bulk => s!"{Bulk.what bulk} too large"
  | .terminated => "Script terminated"
  | .ended _ => "Exit"

/-- Whether a fault stops the script whatever it does. -/
def isUncatchable : Fault → Bool
  | .reserved _ | .tooManyOperations | .stackOverflow | .tooLarge _ | .terminated | .ended _ => true
  | _ => false

/-- Whether a fault ends the whole script even inside a test. -/
def isFatal : Fault → Bool
  | .tooManyOperations | .stackOverflow | .terminated => true
  | _ => false

/-- A fault with a text of its own. -/
def say (text : String) : Fault := .thrown (.str text)

/-- Name of the kind of a fault. -/
def kindName : Fault → String
  | .thrown _ => "ErrorRuntime"
  | .functionNotFound .. | .noFunctionName _ | .mixedList => "ErrorFunctionNotFound"
  | .reserved _ => "ErrorParsing"
  | .variableNotFound _ => "ErrorVariableNotFound"
  | .moduleNotFound _ => "ErrorModuleNotFound"
  | .unknownProperty .. | .fixedProperty .. => "ErrorDotExpr"
  | .mismatch .. => "ErrorMismatchDataType"
  | .listBounds .. => "ErrorArrayBounds"
  | .textBounds .. => "ErrorStringBounds"
  | .bitBounds _ => "ErrorBitFieldBounds"
  | .notIndexable .. => "ErrorIndexingType"
  | .notIterable => "ErrorFor"
  | .unboundSelf => "ErrorUnboundThis"
  | .constantTarget _ => "ErrorAssignmentToConstant"
  | .arithmetic _ => "ErrorArithmetic"
  | .tooManyOperations => "ErrorTooManyOperations"
  | .stackOverflow => "ErrorStackOverflow"
  | .tooLarge _ => "ErrorDataTooLarge"
  | .terminated => "ErrorTerminated"
  | .ended _ => "Exit"

/-- Details of a fault for the script that catches it. -/
def details : Fault → List (String × Value)
  | .functionNotFound name args => [("function", .str (signature name args))]
  | .noFunctionName text => [("function", .str text)]
  | .variableNotFound name | .constantTarget name => [("variable", .str name)]
  | .moduleNotFound name => [("module", .str name)]
  | .mismatch expected found => [("requested", .str expected), ("actual", .str found)]
  | .listBounds size index | .textBounds size index =>
    [("length", .int size), ("index", .int index)]
  | .bitBounds index => [("length", .int 64), ("index", .int index)]
  | .notIndexable kind key => [("type", .str s!"{kind} [{key}]")]
  | _ => []

end Fault

/-- A fault with the place where it arose, once that is known, and the functions that it left, inner
ones first, with the places of their calls. -/
structure Failure where
  fault : Fault
  place : Option Plain.Position
  calls : List (String × Plain.Position)

namespace Failure

def ofFault (fault : Fault) : Failure := ⟨fault, none, []⟩

/-- Fills in the place, if there is none yet. -/
def placed (failure : Failure) (place : Plain.Position) : Failure :=
  match failure.place with
  | some _ => failure
  | none => { failure with place := some place }

/-- The failure as a call of a function lets it out. A fault that cannot be caught moves to the
call. -/
def leaveCall (failure : Failure) (name : String) (place : Plain.Position) : Failure :=
  if failure.fault.isUncatchable then { failure with place := some place }
  else { failure with calls := failure.calls ++ [(name, place)] }

/-- The place of the outermost call that the failure left, or else its own. -/
def outermost? (failure : Failure) : Option Plain.Position :=
  (failure.calls.getLast?.map Prod.snd).or failure.place

/-- The line that is reported. -/
def line? (failure : Failure) : Option Nat :=
  (failure.place.or failure.outermost?).map Plain.Position.line

/-- A function in messages; closures have no name there. -/
def called (name : String) : String :=
  if name.startsWith "anon$" then "closure" else s!"function '{name}'"

def mark (place : Plain.Position) : String := s!" ({place.describe})"

/-- The message with the calls that the failure left, and all places but the outermost. -/
def story (failure : Failure) : String :=
  match failure.calls.getLast? with
  | none => failure.fault.message
  | some (last, _) =>
    failure.calls.dropLast.foldl
      (fun text (name, place) => text ++ s!" in call to {called name}" ++ mark place)
      (failure.fault.message ++ ((failure.place.map mark).getD ""))
      ++ s!" in call to {called last}"

/-- What the script that catches a failure gets: the value that was thrown, or else a record. -/
def caught (failure : Failure) : Value :=
  match failure.fault with
  | .thrown value => value
  | fault =>
    let placed :=
      match failure.outermost? with
      | some place => [("line", Value.int place.line), ("position", .int place.column)]
      | none => []
    let kind :=
      match failure.calls.getLast? with
      | none => ("error", Value.str fault.kindName) :: fault.details
      | some (name, _) =>
        [("error", .str "ErrorInFunctionCall"), ("function", .str name), ("source", .str "")]
    .record (Table.ofPairs ([("message", .str failure.story)] ++ placed ++ kind))

end Failure
end ApiProbe.Machine
