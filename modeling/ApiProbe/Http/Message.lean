import ApiProbe.Text.Casing
import ApiProbe.Text.Blank
import ApiProbe.Json.Value

/-!
Requests and responses as scripts and rules see them: plain records with a list of headers. Header
names are compared without regard to the case of ASCII letters, and the first match counts.
-/
namespace ApiProbe.Http

inductive Method
  | get | post | put | delete | patch | options | head
  deriving Repr, DecidableEq, Inhabited

namespace Method

def name : Method → String
  | .get => "GET"
  | .post => "POST"
  | .put => "PUT"
  | .delete => "DELETE"
  | .patch => "PATCH"
  | .options => "OPTIONS"
  | .head => "HEAD"

def all : List Method := [.get, .post, .put, .delete, .patch, .options, .head]

/-- The method of a name in any case. -/
def named? (text : String) : Option Method :=
  let wanted := Text.upper text
  all.find? fun method => method.name == wanted

end Method

structure Header where
  name : String
  value : String
  deriving Repr, DecidableEq

/-- Value of the first header of that name. -/
def findHeader (headers : List Header) (name : String) : Option String :=
  (headers.find? fun header => header.name.toLower == name.toLower).map Header.value

/-- Like `findHeader`, for a name with blanks around it. -/
def extractHeader (headers : List Header) (name : String) : Option String :=
  findHeader headers (Text.trim name)

/-- The headers as text, one to a line. -/
def headersText (headers : List Header) : String :=
  "\n".intercalate (headers.map fun header => s!"{header.name}: {header.value}")

/-- Adds one more value to what is filed under a name: a second value makes a list. -/
def addValue (value : String) : Option Json → Json
  | none => .str value
  | some (.arr values) => .arr (values ++ [.str value])
  | some first => .arr [first, .str value]

/-- The headers as a document: names in small letters, repeated ones with the list of their
values. -/
def headersJson (headers : List Header) : Json :=
  .obj (headers.foldl (fun table header =>
    let key := header.name.toLower
    Table.insert key (addValue header.value (Table.find? table key)) table) [])

structure Request where
  method : Method
  url : String
  headers : List Header
  body : Option String
  deriving Repr, DecidableEq

namespace Request

/-- The request of a script that is run on its own. -/
def default : Request := ⟨.get, "http://localhost/", [], none⟩

def header (request : Request) (name : String) : Option String := findHeader request.headers name

def contentType (request : Request) : Option String := request.header "content-type"

end Request

structure Response where
  status : Nat
  statusText : String
  headers : List Header
  body : String
  /-- Milliseconds until the response was complete. -/
  time : Nat
  /-- Size of headers and body in bytes. -/
  size : Nat
  deriving Repr, DecidableEq

namespace Response

def header (response : Response) (name : String) : Option String :=
  findHeader response.headers name

def contentType (response : Response) : Option String := response.header "content-type"

def isSuccess (response : Response) : Bool := 200 ≤ response.status && response.status < 300

/-- Bytes of the headers, each with its separator and line end. -/
def headersSize (headers : List Header) : Nat :=
  headers.foldl
    (fun size header => size + header.name.utf8ByteSize + header.value.utf8ByteSize + 4) 0

def measured (response : Response) : Response :=
  { response with size := headersSize response.headers + response.body.utf8ByteSize }

def addHeader (response : Response) (name value : String) : Response :=
  measured { response with headers := response.headers ++ [⟨name, value⟩] }

def withBody (response : Response) (body : String) : Response :=
  measured { response with body }

end Response
end ApiProbe.Http
