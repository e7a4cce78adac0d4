import ApiProbe.Http.Message
import ApiProbe.Json.Decode

/-!
Documents of requests and responses.
-/
namespace ApiProbe.Http
open Json

def Method.ofJson : Json → Except Decode.Failure Method := Decode.oneOf Method.all Method.name

namespace Header

def toJson (header : Header) : Json :=
  .obj [("name", .str header.name), ("value", .str header.value)]

def ofJson (document : Json) : Except Decode.Failure Header := do
  let members ← Decode.record "Header"
    [Decode.required "name" Decode.string, Decode.required "value" Decode.string] document
  pure ⟨← Decode.get members "name" Decode.string, ← Decode.get members "value" Decode.string⟩

end Header

namespace Request

def toJson (request : Request) : Json :=
  .obj [("method", .str request.method.name), ("url", .str request.url),
    ("headers", .arr (request.headers.map Header.toJson)), ("body", .ofText? request.body)]

def ofJson (document : Json) : Except Decode.Failure Request := do
  let members ← Decode.record "RequestSnapshot"
    [Decode.required "method" Method.ofJson, Decode.required "url" Decode.string,
      Decode.possible "headers" (Decode.list Header.ofJson),
      Decode.possible "body" (Decode.optional Decode.string)] document
  pure {
    method := ← Decode.get members "method" Method.ofJson
    url := ← Decode.get members "url" Decode.string
    headers := ← Decode.getOr members "headers" (Decode.list Header.ofJson) []
    body := ← Decode.getOr members "body" (Decode.optional Decode.string) none }

end Request

namespace Response

def toJson (response : Response) : Json :=
  .obj [("status", .int response.status), ("statusText", .str response.statusText),
    ("headers", .arr (response.headers.map Header.toJson)), ("body", .str response.body),
    ("responseTime", .int response.time), ("responseSize", .int response.size)]

def ofJson (document : Json) : Except Decode.Failure Response := do
  let members ← Decode.record "ResponseSnapshot"
    [Decode.required "status" Decode.nat16, Decode.possible "statusText" Decode.string,
      Decode.possible "headers" (Decode.list Header.ofJson), Decode.possible "body" Decode.string,
      Decode.possible "responseTime" Decode.nat64, Decode.possible "responseSize" Decode.size]
    document
  pure {
    status := ← Decode.get members "status" Decode.nat16
    statusText := ← Decode.getOr members "statusText" Decode.string ""
    headers := ← Decode.getOr members "headers" (Decode.list Header.ofJson) []
    body := ← Decode.getOr members "body" Decode.string ""
    time := ← Decode.getOr members "responseTime" Decode.nat64 0
    size := ← Decode.getOr members "responseSize" Decode.size 0 }

end Response
end ApiProbe.Http
