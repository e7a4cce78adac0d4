import ApiProbe.Workspace
import ApiProbe.Http.Codec
import ApiProbe.Json.Locate

/-!
The command line: runs one script from a file, with requests, responses and variables from JSON
files, and prints what came of it together with all variables. Files are given as a function, so
everything here is decided without touching the disk.
-/
namespace ApiProbe.CommandLine

inductive FileFault
  | missing
  | folder
  | notFolder
  | denied
  | nameTooLong
  | notText
  | other (reason : String)
  deriving Repr, DecidableEq

def FileFault.message : FileFault → String
  | .missing => "No such file or directory (os error 2)"
  | .folder => "Is a directory (os error 21)"
  | .notFolder => "Not a directory (os error 20)"
  | .denied => "Permission denied (os error 13)"
  | .nameTooLong => "File name too long (os error 36)"
  | .notText => "stream did not contain valid UTF-8"
  | .other reason => reason

/-- What reading a file gives. -/
abbrev Files := String → Except FileFault String

inductive Complaint
  | usage
  | valueMissing (flag : String)
  | unknownFlag (flag : String)
  | unknownLanguage (name : String)
  | unreadable (path : String) (fault : FileFault)
  | badJson (path reason : String)
  | notScopes (path : String)
  | variable_ (error : VariableError)
  | aborted (reason : Abort)
  deriving Repr, DecidableEq

def usageText : String :=
  "usage: run-script <script> [--request FILE] [--response FILE] [--variables FILE] "
    ++ "[--language javascript|groovy]"

def Complaint.message : Complaint → String
  | .usage => usageText
  | .valueMissing flag => s!"{flag} needs a value"
  | .unknownFlag flag => s!"unknown flag {flag}"
  | .unknownLanguage name => Language.unknownMessage name
  | .unreadable path fault => s!"Failed to read {path}: {fault.message}"
  | .badJson path reason => s!"Invalid JSON in {path}: {reason}"
  | .notScopes path => s!"{path} must contain an object keyed by scope"
  | .variable_ error => error.message
  | .aborted _ => "the script was broken off"

/-- Exit code of a run that was refused, or that broke off. -/
def Complaint.exitCode : Complaint → Nat
  | .aborted _ => 101
  | _ => 2

/-- Flags that take a value. -/
inductive Flag
  | request | response | vars | language
  deriving Repr, DecidableEq

namespace Flag

def name : Flag → String
  | .request => "--request"
  | .response => "--response"
  | .vars => "--variables"
  | .language => "--language"

def all : List Flag := [.request, .response, .vars, .language]

def named? (text : String) : Option Flag := all.find? fun flag => flag.name == text

end Flag

/-- What the arguments ask for. -/
structure Options where
  script : Option String
  request : Option String
  response : Option String
  vars : Option String
  language : Option Language
  deriving Repr, DecidableEq

namespace Options

def unset : Options := ⟨none, none, none, none, none⟩

/-- Notes the value of a flag. -/
def assign (options : Options) (flag : Flag) (value : String) : Except Complaint Options :=
  match flag with
  | .request => .ok { options with request := some value }
  | .response => .ok { options with response := some value }
  | .vars => .ok { options with vars := some value }
  | .language =>
    match Language.parse value with
    | .ok language => .ok { options with language := some language }
    | .error name => .error (.unknownLanguage name)

/-- Notes an argument that is neither a flag with a value nor such a value. -/
def plain (options : Options) (argument : String) : Except Complaint Options :=
  if argument == "-h" || argument == "--help" then .error .usage
  else if argument.startsWith "--" then .error (.unknownFlag argument)
  else .ok { options with script := some argument }

/-- Reads arguments from the left. Of two scripts, or two values of a flag, the later one counts. -/
def read (options : Options) : List String → Except Complaint Options
  | [] => .ok options
  | argument :: rest =>
    match Flag.named? argument with
    | none => do read (← options.plain argument) rest
    | some flag =>
      match rest with
      | [] => .error (.valueMissing flag.name)
      | value :: others => do read (← options.assign flag value) others

end Options

/-- A run of one script. -/
structure Invocation where
  script : String
  options : Options

/-- What arguments ask for; there must be a script. -/
def Invocation.ofArguments (arguments : List String) : Except Complaint Invocation := do
  let options ← Options.unset.read arguments
  match options.script with
  | some script => pure ⟨script, options⟩
  | none => throw .usage

/-- The files that a run reads, in order. -/
def Invocation.paths (invocation : Invocation) : List String :=
  invocation.script :: invocation.options.vars.toList ++ invocation.options.request.toList
    ++ invocation.options.response.toList

def readText (files : Files) (path : String) : Except Complaint String :=
  match files path with
  | .ok text => .ok text
  | .error fault => .error (.unreadable path fault)

def readJson {α : Type} (files : Files) (decode : Json → Except Json.Decode.Failure α)
    (path : String) : Except Complaint α := do
  match Json.Decode.fromText decode (← readText files path) with
  | .ok value => pure value
  | .error reason => throw (.badJson path reason)

/-- Writes one variable; a value that is no text is written as compact JSON. -/
def setVariable (scope : Scope) (store : Store) (entry : String × Json) :
    Except Complaint Store :=
  match store.set entry.1 (entry.2.str?.getD entry.2.compact) scope with
  | .ok (_, written) => .ok written
  | .error error => .error (.variable_ error)

/-- Writes the variables of one scope. What is no object has none. -/
def setScope (store : Store) (entry : String × Json) : Except Complaint Store :=
  match Scope.parse entry.1 with
  | .error error => .error (.variable_ error)
  | .ok scope =>
    match entry.2 with
    | .obj members => members.foldlM (setVariable scope) store
    | _ => .ok store

/-- Writes the variables of a document with one object to a scope. -/
def setAll (path : String) (store : Store) : Json → Except Complaint Store
  | .obj scopes => scopes.foldlM setScope store
  | _ => .error (.notScopes path)

def startStore (files : Files) (store : Store) : Option String → Except Complaint Store
  | none => .ok store
  | some path => do setAll path store (← readJson files (fun document => .ok document.sorted) path)

/-- What a run leaves behind. -/
structure Outcome where
  report : ScriptReport
  store : Store

namespace Outcome

/-- Zero if the script succeeded and all its tests passed. -/
def exitCode (outcome : Outcome) : Nat :=
  if outcome.report.succeeded && outcome.report.allPassed then 0 else 1

/-- What is printed after a run of some milliseconds. -/
def text (millis : Nat) (outcome : Outcome) : String :=
  (Json.obj [("result", outcome.report.toJson millis),
    ("variables", outcome.store.exportJson)]).sorted.pretty

end Outcome

/-- Does what arguments ask for, in a new workspace with the given settings. -/
def Invocation.execute (invocation : Invocation) (settings : Settings) (supply : Supply)
    (files : Files) : Except Complaint Outcome := do
  let script ← readText files invocation.script
  let options := invocation.options
  let workspace := Workspace.create settings options.language supply
  let store ← startStore files workspace.store options.vars
  let request ←
    match options.request with
    | some path => readJson files Http.Request.ofJson path
    | none => pure .default
  let response ← options.response.mapM (readJson files Http.Response.ofJson)
  match { workspace with store }.runScript script request response with
  | .ok (report, last) => pure ⟨report, last.store⟩
  | .error reason => throw (.aborted reason)

/-- Does what arguments ask for, with the default settings. -/
def run (arguments : List String) (supply : Supply) (files : Files) : Except Complaint Outcome := do
  (← Invocation.ofArguments arguments).execute .default supply files

end ApiProbe.CommandLine
