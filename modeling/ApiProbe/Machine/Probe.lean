import ApiProbe.Machine.State
import ApiProbe.Machine.Expectation
import ApiProbe.Extraction
import ApiProbe.Http.Query

/-!
What a script can do with the objects it finds: the request, the response, variables, the console,
documents and assertions. Whatever it reads or changes it reads and changes through its world.
-/
namespace ApiProbe.Machine.Probe
variable {σ : Type}

/-- What a script is told when a variable cannot be changed. -/
def refusal : VariableError → Fault
  | .readOnly scope => .say s!"Permission denied: {scope.name} variables are read-only here"
  | error => .say error.message

/-- The response, or the complaint that there is none yet. -/
def response (setup : Setup σ) : Run σ Http.Response :=
  match setup.world.response with
  | some response => pure response
  | none => .fail (.say "response unavailable in pre-request context")

/-- The headers as a record; the last one of a name counts. -/
def headers (list : List Http.Header) : Value :=
  .record (Table.ofPairs (list.map fun header => (header.name, .str header.value)))

def write (setup : Setup σ) (key : String) (value : Value) (scope : Scope) : Run σ Value := do
  match setup.world.write (← get).vars key value.stored scope with
  | .ok vars =>
    modify fun state => { state with vars }
    pure .unit
  | .error error => .fail (refusal error)

def erase (setup : Setup σ) (key : String) (scope : Scope) : Run σ Value := do
  match setup.world.erase (← get).vars key scope with
  | .ok (found, vars) =>
    modify fun state => { state with vars }
    pure (.bool found)
  | .error error => .fail (refusal error)

/-- Reads a document, with a word in front of the complaint. -/
def parse (complaint text : String) : Run σ Json :=
  match Json.read text with
  | .ok document => pure document
  | .error error => .fail (.say s!"{complaint}: {error.message}")

/-- The outcome of an extraction, with its complaints in the words of the extraction. -/
def extracted {α : Type} (outcome : Except Extraction.Trouble α) : Run σ α :=
  match outcome with
  | .ok value => pure value
  | .error (.refused error) => .fail (.say error.message)
  | .error (.aborted reason) => throw (.abort reason)

/-- Looks for a path in a value, or in the document that a text is. -/
def jsonPath (target : Value) (path : String) : Run σ Value := do
  let document ←
    match target with
    | .str text => parse "jsonPath: input is not valid JSON" text
    | value => pure value.toJson
  let found ← extracted (Extraction.fromDocument document path)
  pure ((found.map Value.ofJson).getD .unit)

/-- Keeps an extracted document. Whether that is allowed has been asked before. -/
def keep (setup : Setup σ) (name : String) (document : Json) (scope : Scope) : Run σ Unit := do
  match setup.world.keep (← get).vars name document.display scope with
  | .ok vars => modify fun state => { state with vars }
  | .error error => .fail (.say (ExtractionError.variable_ error).message)

/-- Looks for a path in the body of the response, and keeps what it finds under a name, if there is
one. In a body that is no document nothing is found. -/
def extractJson (setup : Setup σ) (path : String) (name : Option String) : Run σ Value := do
  let response ← response setup
  let scope := setup.world.extractionScope
  if name.isSome && !setup.world.canWrite (← get).vars scope then
    .fail (refusal (.readOnly scope))
  match Extraction.fromJson response.body path with
  | .error (.refused (.badJson _)) => pure .unit
  | outcome =>
    match ← extracted outcome, name with
    | some document, some name =>
      keep setup name document scope
      pure (.ofJson document)
    | some document, none => pure (.ofJson document)
    | none, _ => pure .unit

/-- Variables as seen from one scope. -/
def variablesOf (scope : Scope) : Value := .host (.vars (some scope) scope)

def check (e : Expectation Value) (check : Check) : Run σ Value := do
  pure (.host (.expectation (← .ofExcept (check.run e))))

/-- A property of an object. -/
def property? (setup : Setup σ) (name : String) (object : Object Value) : Option (Run σ Value) :=
  let request := setup.world.request
  let ofResponse (read : Http.Response → Value) : Option (Run σ Value) :=
    some do pure (read (← response setup))
  match object with
  | .probe =>
    match name with
    | "request" => some (pure (.host .request))
    | "response" => ofResponse fun _ => .host .response
    | "variables" => some (pure (.host (.vars none .request)))
    | "environment" => some (pure (variablesOf .environment))
    | "collectionVariables" => some (pure (variablesOf .collection))
    | "globals" => some (pure (variablesOf .global))
    | _ => none
  | .request =>
    match name with
    | "url" => some (pure (.str request.url))
    | "method" => some (pure (.str request.method.name))
    | "headers" => some (pure (headers request.headers))
    | "body" => some (pure (.ofText? request.body))
    | _ => none
  | .response =>
    match name with
    | "code" | "status" => ofResponse fun response => .int response.status
    | "statusText" => ofResponse fun response => .str response.statusText
    | "responseTime" => ofResponse fun response => .int response.time
    | "responseSize" => ofResponse fun response => .int response.size
    | "headers" => ofResponse fun response => headers response.headers
    | "body" => ofResponse fun response => .str response.body
    | _ => none
  | .expectation e =>
    if chainWords.contains name then some (pure (.host (.expectation e)))
    else if name == "not" then some (pure (.host (.expectation e.negate)))
    else if name == "deep" then some (pure (.host (.expectation e.deepen)))
    else (Check.ofProperty? name).map (check e)
  | .vars .. | .console | .json => none

/-- Marks of the levels of the console. -/
def consoleMark? : String → Option String
  | "log" | "info" => some ""
  | "warn" => some "[warn] "
  | "error" => some "[error] "
  | _ => none

/-- Writes up to four values to the log. -/
def console? (setup : Setup σ) (level : String) (args : List Value) : Option (Run σ Value) :=
  if args.length ≤ 4 then
    (consoleMark? level).map fun mark => do
      Run.print setup (mark ++ " ".intercalate (args.map Value.logged))
      pure .unit
  else none

def json? (name : String) (args : List Value) : Option (Run σ Value) :=
  match name, args with
  | "parse", [.str text] => some do pure (.ofJson (← parse "JSON.parse" text))
  | "stringify", [value] => some (pure (.str value.toJson.compact))
  | "stringify", [value, _, .int indent] =>
    some (pure (.str (if indent ≤ 0 then value.toJson.compact else value.toJson.pretty)))
  | _, _ => none

def variableCall? (setup : Setup σ) (reads : Option Scope) (writes : Scope) (name : String)
    (args : List Value) : Option (Run σ Value) :=
  let find (key : String) : Run σ (Option String) := do
    pure (setup.world.find? (← get).vars key reads)
  match name, args with
  | "get", [.str key] => some do pure (.ofText? (← find key))
  | "has", [.str key] => some do pure (.bool (← find key).isSome)
  | "set", [.str key, value] => some (write setup key value writes)
  | "unset", [.str key] => some (erase setup key writes)
  | _, _ => none

/-- Functions that go by their name alone. -/
def function? (setup : Setup σ) (name : String) (args : List Value) : Option (Run σ Value) :=
  match name, args with
  | "expect", [value] => some (pure (.host (.expectation (.of value))))
  | "expectBound", [value, .str binding] =>
    some (pure (.host (.expectation (.bound value binding))))
  | "jsonPath", [target, .str path] => some (jsonPath target path)
  | "extractJson", [.str path] => some (extractJson setup path none)
  | "extractJson", [.str path, .str name] => some (extractJson setup path (some name))
  | _, _ => none

/-- Writing to the log without the console. -/
def print? (setup : Setup σ) (name : String) (args : List Value) : Option (Run σ Value) :=
  let line (text : String) : Option (Run σ Value) := some do
    Run.print setup text
    pure .unit
  match name, args with
  | "print", [] | "println", [] => line ""
  | "print", [value] => line value.display
  | "println", [value] => line value.logged
  | "debug", [] => line "[debug] "
  | "debug", [value] => line ("[debug] " ++ value.inspect)
  | _, _ => none

/-- A method of an object. -/
def method? (setup : Setup σ) (name : String) (object : Object Value) (args : List Value) :
    Option (Run σ Value) :=
  match object with
  | .probe => function? setup name args
  | .request =>
    match name, args with
    | "header", [.str key] => some (pure (.ofText? (setup.world.request.header key)))
    | "query", [.str key] => some (pure (.ofText? (setup.world.request.queryParameter key)))
    | _, _ => none
  | .response =>
    match name, args with
    | "header", [.str key] => some do pure (.ofText? ((← response setup).header key))
    | "json", [] => some do
      pure (.ofJson (← parse "Response body is not valid JSON" (← response setup).body))
    | "text", [] => some do pure (.str (← response setup).body)
    | _, _ => none
  | .vars reads writes => variableCall? setup reads writes name args
  | .console => console? setup name args
  | .json => json? name args
  | .expectation e => (Check.ofCall? name args).map (check e)

/-- A function of the objects, called as a method of one or by its name. -/
def call? (setup : Setup σ) (name : String) (args : List Value) : Option (Run σ Value) :=
  let asMethod :=
    match args with
    | .host object :: rest => method? setup name object rest
    | _ => none
  (asMethod.or (function? setup name args)).or (print? setup name args)

end ApiProbe.Machine.Probe
