import ApiProbe.Rule.Basic

/-!
Documents of rules. A rule that does not name a scope takes the one it is given as default.
-/
namespace ApiProbe.Rule
open Json

def Source.ofJson : Json → Except Decode.Failure Source :=
  Decode.oneOf [Source.body, Source.headers] Source.name

/-- Spellings of methods, in the order in which they are listed in messages. -/
def methodNames : List (String × Method) :=
  [("JSONPath", .jsonPath), ("jsonPath", .jsonPath), ("jsonpath", .jsonPath),
    ("XPath", .xmlPath), ("xPath", .xmlPath), ("xpath", .xmlPath), ("header", .header),
    ("regex", .regex)]

def Method.ofJson : Json → Except Decode.Failure Method :=
  Decode.name methodNames (methodNames.map Prod.fst)

/-- The members of a rule's document, in order. What a rule leaves open is left out. -/
def toJson (rule : Rule) : Json :=
  .obj ([("id", .str rule.id), ("name", .str rule.name), ("enabled", .bool rule.enabled),
    ("source", .str rule.source.name), ("method", .str rule.method.name),
    ("pattern", .str rule.pattern), ("variableName", .str rule.variable_),
    ("targetScope", .str rule.scope.name)]
    ++ rule.wantsGroup.toList.map (fun wanted => ("hasCaptureGroup", .bool wanted))
    ++ describedBy rule.description)

def ofJson (scope : Scope) (document : Json) : Except Decode.Failure Rule := do
  let members ← Decode.record "ExtractionRule"
    [Decode.possible "id" Decode.string, Decode.required "name" Decode.string,
      Decode.possible "enabled" Decode.bool, Decode.possible "source" Source.ofJson,
      Decode.required "method" Method.ofJson, Decode.required "pattern" Decode.string,
      Decode.required "variableName" Decode.string, Decode.possible "targetScope" Scope.ofJson,
      Decode.possible "hasCaptureGroup" (Decode.optional Decode.bool),
      Decode.possible "description" (Decode.optional Decode.string)] document
  pure {
    id := ← Decode.getOr members "id" Decode.string ""
    name := ← Decode.get members "name" Decode.string
    enabled := ← Decode.getOr members "enabled" Decode.bool true
    source := ← Decode.getOr members "source" Source.ofJson .body
    method := ← Decode.get members "method" Method.ofJson
    pattern := ← Decode.get members "pattern" Decode.string
    variable_ := ← Decode.get members "variableName" Decode.string
    scope := ← Decode.getOr members "targetScope" Scope.ofJson scope
    wantsGroup := ← Decode.getOr members "hasCaptureGroup" (Decode.optional Decode.bool) none
    description := ← Decode.getOr members "description" (Decode.optional Decode.string) none }

/-- Text of a list of rules: an object with the rules as its only member. -/
def exportText (rules : List Rule) : String :=
  (Json.obj [("rules", .arr (rules.map toJson))]).pretty

/-- An object or a one-item list that holds a list of rules. -/
def wrapped (scope : Scope) (document : Json) : Except Decode.Failure (List Rule) := do
  let members ← Decode.record "RuleDocument"
    [Decode.required "rules" (Decode.list (ofJson scope))] document
  Decode.get members "rules" (Decode.list (ofJson scope))

/-- Reads rules from text: a list of them, or an object that holds the list. -/
def importText (scope : Scope) (text : String) : Except RuleTextFault (List Rule) :=
  match Json.readWritten text with
  | .error error => .error (.badJson error)
  | .ok document =>
    match Decode.list (ofJson scope) document with
    | .ok rules => .ok rules
    | .error _ =>
      match wrapped scope document with
      | .ok rules => .ok rules
      | .error _ => .error .badDocument

end ApiProbe.Rule
