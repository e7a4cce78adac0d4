import ApiProbe.Http.Message
import ApiProbe.Variable.Substitution

/-!
Filling in requests: variables are replaced in the address, in the values of the headers and in the
body, in this order. Names of headers stay as they are.
-/
namespace ApiProbe.Http

/-- What there is to carry from one text of a request to the next. -/
structure Filling where
  warnings : List Substitution.Warning
  supply : Supply

namespace Filling

/-- Replaces the variables of one text. -/
def text (store : Store) (source : String) : StateT Filling (Except Abort) String := fun before => do
  let outcome ← store.substitute before.supply source
  pure (String.ofList outcome.text, ⟨before.warnings ++ outcome.warnings, outcome.supply⟩)

end Filling

namespace Request

def fillParts (store : Store) (request : Request) : StateT Filling (Except Abort) Request := do
  let url ← Filling.text store request.url
  let headers ← request.headers.mapM fun header => do
    pure { header with value := ← Filling.text store header.value }
  let body ← request.body.mapM (Filling.text store)
  pure { request with url, headers, body }

/-- The request with its variables replaced, and what there was to warn of. -/
def fill (request : Request) (store : Store) (supply : Supply) :
    Except Abort (Request × Filling) :=
  (request.fillParts store).run ⟨[], supply⟩

end Request
end ApiProbe.Http
