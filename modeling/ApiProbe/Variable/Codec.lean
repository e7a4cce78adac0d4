import ApiProbe.Variable.Store
import ApiProbe.Json.Decode

/-!
Documents of variables and of the history.
-/
namespace ApiProbe
open Json

def Scope.ofJson : Json → Except Decode.Failure Scope := Decode.oneOf Scope.all Scope.name

def Kind.ofJson : Json → Except Decode.Failure Kind := Decode.oneOf Kind.all Kind.name

def ChangeSource.ofJson : Json → Except Decode.Failure ChangeSource :=
  Decode.oneOf ChangeSource.all ChangeSource.name

/-- A member that is left out when there is nothing to say. -/
def describedBy (description : Option String) : List (String × Json) :=
  description.toList.map fun text => ("description", .str text)

namespace Variable

def toJson (v : Variable) : Json :=
  .obj ([("key", .str v.key), ("value", .str v.value), ("type", .str v.kind.name),
    ("scope", .str v.scope.name), ("enabled", .bool v.enabled)] ++ describedBy v.description)

def ofJson (document : Json) : Except Decode.Failure Variable := do
  let members ← Decode.record "Variable"
    [Decode.required "key" Decode.string, Decode.required "value" Decode.string,
      Decode.possible "type" Kind.ofJson, Decode.required "scope" Scope.ofJson,
      Decode.possible "enabled" Decode.bool,
      Decode.possible "description" (Decode.optional Decode.string)] document
  pure {
    key := ← Decode.get members "key" Decode.string
    value := ← Decode.get members "value" Decode.string
    kind := ← Decode.getOr members "type" Kind.ofJson .string
    scope := ← Decode.get members "scope" Scope.ofJson
    enabled := ← Decode.getOr members "enabled" Decode.bool true
    description := ← Decode.getOr members "description" (Decode.optional Decode.string) none }

end Variable

/-- A change as a document. -/
def Change.toJson (change : Change) : Json :=
  .obj [("sequence", .int change.sequence), ("variableName", .str change.variable_),
    ("oldValue", .ofText? change.old), ("newValue", .ofText? change.new),
    ("scope", .str change.scope.name), ("source", .str change.source.name),
    ("timestamp", .str change.time.iso)]

/-- Text of the changes of one variable or of all, newest first. -/
def History.exportText (history : History) (name : Option String) (limit : Option Nat) : String :=
  (Json.arr ((history.entries name limit).map Change.toJson)).pretty

namespace Store

/-- The variables of a scope as a document, with masks for secrets. -/
def exportScopeJson (store : Store) (scope : Scope) : Json :=
  .arr ((store.exportScope scope).map Variable.toJson)

/-- The variables of all scopes as a document, with masks for secrets. -/
def exportJson (store : Store) : Json :=
  .obj (Scope.all.map fun scope => (scope.name, store.exportScopeJson scope))

end Store
end ApiProbe
