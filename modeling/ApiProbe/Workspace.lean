import ApiProbe.Sandbox
import ApiProbe.Rule.Batch
import ApiProbe.Rule.Book
import ApiProbe.Http.Filling

/-!
Workspaces: everything around a request that is kept from one request to the next. A script runs
before a request is sent, with the request alone, or after its response has come in, with both; then
rules take values from the response. All of them share the variables of one store.
-/
namespace ApiProbe

structure Workspace where
  settings : Settings
  /-- The language of scripts, if it is not that of the settings. -/
  language : Option Language
  store : Store
  book : RuleBook
  supply : Supply

namespace Workspace

/-- A workspace without variables and rules. -/
def create (settings : Settings) (language : Option Language) (supply : Supply) : Workspace :=
  ⟨settings, language, settings.newStore supply.now, .empty, supply⟩

/-- Scripts of a workspace may write all variables. -/
def scriptAccess : Access := .full .script

/-- Runs a script; with a response it runs as a test script. -/
def runScript (workspace : Workspace) (script : String) (request : Http.Request)
    (response : Option Http.Response) : Except Abort (ScriptReport × Workspace) := do
  let (report, handle) ← Sandbox.run workspace.settings workspace.language scriptAccess
    workspace.store request response script
  pure (report, { workspace with store := handle.store })

/-- Runs the enabled rules of the book on a response. -/
def applyRules (workspace : Workspace) (response : Http.Response) :
    Except Abort (Rule.Report × Workspace) := do
  let (report, store) ← Rule.applyAll workspace.book.rules response workspace.store
  pure (report, { workspace with store })

/-- Replaces the variables of a request. -/
def fill (workspace : Workspace) (request : Http.Request) :
    Except Abort (Http.Request × List Substitution.Warning × Workspace) := do
  let (filled, filling) ← request.fill workspace.store workspace.supply
  pure (filled, filling.warnings, { workspace with supply := filling.supply })

end Workspace
end ApiProbe
