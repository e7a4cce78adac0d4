import ApiProbe.Variable.Codec
import ApiProbe.Script.Language

/-!
Settings: limits for scripts and histories, the scope that extracted values go to, and the language
of scripts. There is one current set of settings; it is replaced only by valid ones.
-/
namespace ApiProbe

structure Settings where
  /-- Milliseconds that a script may run. -/
  timeout : Nat
  /-- Steps that a script may take; zero is no limit. -/
  maxOperations : Nat
  maxCallLevels : Nat
  maxStringSize : Nat
  maxArraySize : Nat
  maxMapSize : Nat
  maxLogEntries : Nat
  depth : Nat
  historyLimit : Nat
  extractionScope : Scope
  language : Language
  deriving Repr, DecidableEq

inductive SettingsFault
  | timeoutZero
  | historyLimitZero
  | depthOutOfRange
  | callLevelsZero
  deriving Repr, DecidableEq

/-- Deepest level to which references between variables may be followed. -/
def Settings.maxDepth : Nat := 32

def SettingsFault.message : SettingsFault → String
  | .timeoutZero => "scriptTimeout must be greater than 0"
  | .historyLimitZero => "historyLimit must be greater than 0"
  | .depthOutOfRange => s!"substitutionDepth must be between 1 and {Settings.maxDepth}"
  | .callLevelsZero => "maxCallLevels must be greater than 0"

namespace Settings

def default : Settings where
  timeout := 5000
  maxOperations := 0
  maxCallLevels := 64
  maxStringSize := 1048576
  maxArraySize := 100000
  maxMapSize := 100000
  maxLogEntries := 1000
  depth := 5
  historyLimit := 1000
  extractionScope := .environment
  language := .javaScript

def validate (settings : Settings) : Except SettingsFault Unit :=
  if settings.timeout == 0 then .error .timeoutZero
  else if settings.historyLimit == 0 then .error .historyLimitZero
  else if settings.depth == 0 || settings.depth > maxDepth then .error .depthOutOfRange
  else if settings.maxCallLevels == 0 then .error .callLevelsZero
  else .ok ()

def isValid (settings : Settings) : Bool :=
  match settings.validate with
  | .ok _ => true
  | .error _ => false

open Json

def toJson (settings : Settings) : Json :=
  .obj [("scriptTimeout", .int settings.timeout), ("maxOperations", .int settings.maxOperations),
    ("maxCallLevels", .int settings.maxCallLevels), ("maxStringSize", .int settings.maxStringSize),
    ("maxArraySize", .int settings.maxArraySize), ("maxMapSize", .int settings.maxMapSize),
    ("maxLogEntries", .int settings.maxLogEntries), ("substitutionDepth", .int settings.depth),
    ("historyLimit", .int settings.historyLimit),
    ("defaultExtractionScope", .str settings.extractionScope.name),
    ("language", .str settings.language.name)]

def languageOfJson : Json → Except Decode.Failure Language :=
  Decode.oneOf Language.all Language.name

/-- Reads settings; what is not there has its default. -/
def ofJson (document : Json) : Except Decode.Failure Settings := do
  let members ← Decode.record "ScriptingConfig"
    [Decode.possible "scriptTimeout" Decode.nat64, Decode.possible "maxOperations" Decode.nat64,
      Decode.possible "maxCallLevels" Decode.size, Decode.possible "maxStringSize" Decode.size,
      Decode.possible "maxArraySize" Decode.size, Decode.possible "maxMapSize" Decode.size,
      Decode.possible "maxLogEntries" Decode.size,
      Decode.possible "substitutionDepth" Decode.size, Decode.possible "historyLimit" Decode.size,
      Decode.possible "defaultExtractionScope" Scope.ofJson,
      Decode.possible "language" languageOfJson] document
  let d := default
  pure {
    timeout := ← Decode.getOr members "scriptTimeout" Decode.nat64 d.timeout
    maxOperations := ← Decode.getOr members "maxOperations" Decode.nat64 d.maxOperations
    maxCallLevels := ← Decode.getOr members "maxCallLevels" Decode.size d.maxCallLevels
    maxStringSize := ← Decode.getOr members "maxStringSize" Decode.size d.maxStringSize
    maxArraySize := ← Decode.getOr members "maxArraySize" Decode.size d.maxArraySize
    maxMapSize := ← Decode.getOr members "maxMapSize" Decode.size d.maxMapSize
    maxLogEntries := ← Decode.getOr members "maxLogEntries" Decode.size d.maxLogEntries
    depth := ← Decode.getOr members "substitutionDepth" Decode.size d.depth
    historyLimit := ← Decode.getOr members "historyLimit" Decode.size d.historyLimit
    extractionScope :=
      ← Decode.getOr members "defaultExtractionScope" Scope.ofJson d.extractionScope
    language := ← Decode.getOr members "language" languageOfJson d.language }

/-- The settings that a settings document asks for, in its section of the given name. Without such
a section, and if it cannot be read, they are the defaults. -/
def requested (section_ : String) (document : Option Json) : Settings :=
  match document.bind (Json.member? section_) with
  | some found =>
    match ofJson found with
    | .ok settings => settings
    | .error _ => default
  | none => default

/-- Loads the current settings from a settings document. Invalid ones are refused. -/
def load (section_ : String) (document : Option Json) : Except SettingsFault Settings := do
  let settings := requested section_ document
  settings.validate
  pure settings

/-- Changes the current settings. If the result is not valid they go back to the defaults. -/
def update (current : Settings) (change : Settings → Settings) : Settings :=
  let changed := change current
  if changed.isValid then changed else default

/-- The complaint about settings that could not be loaded. -/
def loadMessage (fault : SettingsFault) : String :=
  s!"Invalid configuration: {fault.message}. Using defaults."

/-- An empty store with the limits of the settings. -/
def newStore (settings : Settings) (now : Instant) : Store :=
  .empty settings.historyLimit settings.depth now

end Settings
end ApiProbe
