import ApiProbe.JsonPath.Reader
import ApiProbe.JsonPath.Query
import ApiProbe.Json.Printer
import ApiProbe.Xml.Path
import ApiProbe.Regex.Matching
import ApiProbe.Http.Message
import ApiProbe.Variable.Store

/-!
Extraction of values from responses: by a path into JSON or XML, by the name of a header, or by a
pattern. What is found may be kept in a variable; when nothing is found nothing is written.
-/
namespace ApiProbe

inductive ExtractionError
  | badJson (error : Json.ReadError)
  | badXml (error : Xml.ReadError)
  | badJsonPath (error : JsonPath.PathError)
  | badXmlPath (error : Xml.PathError)
  | badRegex (pattern : String) (error : Regex.CompileError)
  | xmlInHeaders
  | variable_ (error : VariableError)
  deriving Repr, DecidableEq

def ExtractionError.message : ExtractionError → String
  | .badJson error => s!"Parse error: invalid JSON: {error.message}"
  | .badXml error => s!"Parse error: {error.message}"
  | .badJsonPath error => s!"Invalid pattern: {error.message}"
  | .badXmlPath error => s!"Invalid pattern: {error.message}"
  | .badRegex pattern error => s!"Invalid pattern: regex '{pattern}': {error.message}"
  | .xmlInHeaders => "Unsupported extraction: xpath rules cannot read headers"
  | .variable_ error => s!"Could not store value: {error.message}"

namespace Extraction

/-- Why there is no result: an error to report, or a run that broke off. -/
inductive Trouble
  | refused (error : ExtractionError)
  | aborted (abort : Abort)
  deriving Repr, DecidableEq

def refuse {ε α : Type} (wrap : ε → ExtractionError) : Except ε α → Except Trouble α
  | .ok value => .ok value
  | .error error => .error (.refused (wrap error))

/-- Looks for a path in a document that has been read. -/
def fromDocument (document : Json) (path : String) : Except Trouble (Option Json) := do
  let steps ← refuse .badJsonPath (JsonPath.read path)
  match steps.select document with
  | .ok found => pure found
  | .error abort => throw (.aborted abort)

/-- Looks for a path in JSON text. The path is read first. -/
def fromJson (body path : String) : Except Trouble (Option Json) := do
  let steps ← refuse .badJsonPath (JsonPath.read path)
  let document ← refuse .badJson (Json.read body)
  match steps.select document with
  | .ok found => pure found
  | .error abort => throw (.aborted abort)

/-- Looks for a path in XML text. The path is read first. -/
def fromXml (body path : String) : Except Trouble (Option String) := do
  let steps ← refuse .badXmlPath (Xml.Path.read path)
  let root ← refuse .badXml (Xml.read body)
  pure (steps.evaluate root)

def compile (pattern : String) : Except Trouble Regex :=
  refuse (.badRegex pattern) (Regex.compile pattern)

/-- The first match of a pattern, or the first group of it. A pattern without groups always gives
the whole match. -/
def fromMatch (regex : Regex) (content : String) (wantsGroup : Bool) : Option String := do
  let text := content.toList
  let captures ← regex.captures? text
  captures.text? text (if wantsGroup && regex.hasGroup then 1 else 0)

/-- The first match of a pattern; its first group if there is one, unless told otherwise. -/
def fromPattern (content pattern : String) (wantsGroup : Option Bool) :
    Except Trouble (Option String) := do
  let regex ← compile pattern
  pure (fromMatch regex content (wantsGroup.getD regex.hasGroup))

/-- The variable that keeps what is found. -/
structure Target where
  variable_ : String
  scope : Scope
  deriving Repr, DecidableEq

/-- Writes what was found, if there is a target for it. -/
def keep (store : Store) (source : ChangeSource) (target : Option Target) (found : Option String) :
    Except Trouble Store :=
  match found, target with
  | some value, some target => do
    let (_, written) ←
      refuse .variable_ (store.write target.variable_ value none target.scope source)
    pure written
  | _, _ => .ok store

/-- Keeps a found document in its stored form. -/
def keepJson (store : Store) (source : ChangeSource) (target : Option Target)
    (found : Option Json) : Except Trouble Store :=
  keep store source target (found.map Json.display)

/-- What a search found, and the store that keeps it in its written form. -/
def kept {α : Type} (store : Store) (source : ChangeSource) (target : Option Target)
    (written : α → String) (search : Except Trouble (Option α)) :
    Except Trouble (Option α × Store) := do
  let found ← search
  let after ← keep store source target (found.map written)
  pure (found, after)

section
variable (store : Store) (source : ChangeSource) (target : Option Target)

/-- Takes a value from JSON text. -/
def takeJson (body path : String) : Except Trouble (Option Json × Store) :=
  kept store source target Json.display (fromJson body path)

/-- Takes a text from XML. -/
def takeXml (body path : String) : Except Trouble (Option String × Store) :=
  kept store source target id (fromXml body path)

/-- Takes the value of a header. -/
def takeHeader (headers : List Http.Header) (name : String) :
    Except Trouble (Option String × Store) :=
  kept store source target id (.ok (Http.extractHeader headers name))

/-- Takes what matches a pattern. -/
def takeMatch (content pattern : String) (wantsGroup : Option Bool) :
    Except Trouble (Option String × Store) :=
  kept store source target id (fromPattern content pattern wantsGroup)

end

end Extraction
end ApiProbe
