import ApiProbe.Text.Split
import ApiProbe.Text.Utf8
import ApiProbe.Http.Message

/-!
Query parameters of an address. An address must have a scheme; those of the web must also name a
host, and a port must be in range. The query is what stands between the first question mark and the
first number sign; its names and values are percent-decoded, and a plus stands for a space.
-/
namespace ApiProbe.Http.Query

def isEdge (c : Char) : Bool := c.toNat ≤ 32

/-- Drops controls and spaces at the ends, and tabs and line ends everywhere. -/
def clean (address : List Char) : List Char :=
  let trimmed := ((address.dropWhile isEdge).reverse.dropWhile isEdge).reverse
  trimmed.filter fun c => c != '\t' && c != '\n' && c != '\r'

def isSchemePart (c : Char) : Bool := c.isAlphanum || c == '+' || c == '-' || c == '.'

/-- Splits the scheme off, in small letters. -/
def scheme? (address : List Char) : Option (String × List Char) :=
  match address with
  | c :: _ =>
    if c.isAlpha then
      let name := address.takeWhile isSchemePart
      match address.dropWhile isSchemePart with
      | ':' :: rest => some (String.ofList (name.map Char.toLower), rest)
      | _ => none
    else none
  | [] => none

def webSchemes : List String := ["http", "https", "ws", "wss", "ftp"]

def hexDigit? (c : Char) : Option Nat :=
  if c.isDigit then some (c.toNat - 48)
  else if 'a' ≤ c.toLower && c.toLower ≤ 'f' then some (c.toLower.toNat - 87)
  else none

/-- Replaces each percent sign and two hexadecimal digits by a byte. -/
def percentDecode : List UInt8 → List UInt8
  | p :: a :: b :: rest =>
    match p == 37, hexDigit? (Char.ofNat a.toNat), hexDigit? (Char.ofNat b.toNat) with
    | true, some high, some low => UInt8.ofNat (high * 16 + low) :: percentDecode rest
    | _, _, _ => p :: percentDecode (a :: b :: rest)
  | b :: rest => b :: percentDecode rest
  | [] => []
termination_by bytes => bytes.length

/-- Characters that end a host name or cannot stand in one. -/
def isForbidden (c : Char) : Bool :=
  c.toNat ≤ 32 || c.toNat == 127 || "#/:<>?@[\\]^|%".toList.contains c

/-- Number in decimal, octal (`0…`) or hexadecimal (`0x…`) form. -/
def number? (part : List Char) : Option Nat :=
  let digits (base : Nat) (chars : List Char) : Option Nat :=
    chars.foldl (fun total c => do
      let n ← total
      let d ← hexDigit? c
      if d < base then some (n * base + d) else none) (some 0)
  match part with
  | '0' :: x :: rest => if x == 'x' || x == 'X' then digits 16 rest else digits 8 (x :: rest)
  | [] => none
  | _ => digits 10 part

/-- A host whose last label is a number must be an address of four bytes in all. -/
def isNumericHostBad (host : List Char) : Bool :=
  let all := Text.parts '.' host
  let labels := if all.length > 1 && all.getLast? == some [] then all.dropLast else all
  match labels.getLast? with
  | some last =>
    if (!last.isEmpty && last.all Char.isDigit) || (number? last).isSome then
      let numbers := labels.map number?
      let leading := numbers.dropLast.all fun n => decide (n.getD 256 < 256)
      let room := Nat.pow 256 (5 - labels.length)
      labels.length > 4 || numbers.contains none || !leading
        || ((numbers.getLast?.bind id).getD 0) ≥ room
    else false
  | none => false

/-- Eight groups of hexadecimal digits, or fewer around one doubled colon. -/
def isSixteenByteAddress (chars : List Char) : Bool :=
  let groups := Text.parts ':' chars
  let hex (part : List Char) : Bool :=
    !part.isEmpty && part.length ≤ 4 && part.all fun c => (hexDigit? c).isSome
  let empties := (groups.filter List.isEmpty).length
  let doubled := (String.ofList chars).splitOn "::"
  if doubled.length == 1 then groups.length == 8 && groups.all hex
  else doubled.length == 2 && groups.length ≤ 9 && empties ≤ 3
    && groups.all fun part => part.isEmpty || hex part

/-- A host that addresses of the web may name. -/
def isWebHost (host : List Char) : Bool :=
  match host with
  | [] => false
  | '[' :: rest =>
    rest.getLast? == some ']' && isSixteenByteAddress rest.dropLast
  | _ =>
    let decoded := (Text.decodeLossy (percentDecode (Text.bytesOf (String.ofList host)))).toList
    !decoded.isEmpty && !decoded.any isForbidden && !isNumericHostBad decoded

/-- Digits of a port in range; none at all are fine. -/
def isPort (port : List Char) : Bool :=
  port.all Char.isDigit && (port.foldl (fun n c => n * 10 + (c.toNat - 48)) 0) ≤ 65535

/-- Splits the port off a host; colons inside brackets belong to the host. -/
def hostAndPort (authority : List Char) : List Char × List Char :=
  let afterBracket := authority.reverse.takeWhile (· != ']')
  if afterBracket.contains ':' then
    let port := (authority.reverse.takeWhile (· != ':')).reverse
    (authority.take (authority.length - port.length - 1), port)
  else (authority, [])

/-- Drops a user name and password. -/
def dropUser (authority : List Char) : List Char :=
  (authority.reverse.takeWhile (· != '@')).reverse

def isWebSlash (c : Char) : Bool := c == '/' || c == '\\'

/-- The address is one that can be resolved without a base. -/
def isAddress (scheme : String) (rest : List Char) : Bool :=
  if webSchemes.contains scheme then
    let body := rest.dropWhile isWebSlash
    let authority := body.takeWhile fun c => !isWebSlash c && c != '?' && c != '#'
    let (host, port) := hostAndPort (dropUser authority)
    isWebHost host && isPort port
  else if scheme == "file" then true
  else
    match rest with
    | '/' :: '/' :: body =>
      let authority := body.takeWhile fun c => c != '/' && c != '?' && c != '#'
      let (host, port) := hostAndPort (dropUser authority)
      let named := match host with
        | '[' :: inner => inner.getLast? == some ']' && isSixteenByteAddress inner.dropLast
        | _ => !(host.any fun c => c != '%' && c.toNat != 127 && isForbidden c && c.toNat ≤ 127
            && (c.toNat == 0 || c.toNat > 31 || c == '\t' || c == '\n' || c == '\r'))
      named && isPort port && (port.isEmpty || !host.isEmpty)
    | _ => true

/-- The query text of an address. -/
def text? (address : String) : Option (List Char) :=
  match scheme? (clean address.toList) with
  | none => none
  | some (scheme, rest) =>
    if isAddress scheme rest then
      match (rest.takeWhile (· != '#')).dropWhile (· != '?') with
      | _ :: query => some query
      | [] => some []
    else none

def decodePart (chars : List Char) : String :=
  let spaced := chars.map fun c => if c == '+' then ' ' else c
  Text.decodeLossy (percentDecode (Text.bytesOf (String.ofList spaced)))

/-- Name and value of one parameter; without an equal sign the value is empty. -/
def pair (part : List Char) : String × String :=
  (decodePart (part.takeWhile (· != '=')), decodePart ((part.dropWhile (· != '=')).drop 1))

/-- The parameters of an address in order. -/
def parameters (address : String) : List (String × String) :=
  match text? address with
  | some query => ((Text.parts '&' query).filter fun part => !part.isEmpty).map pair
  | none => []

end ApiProbe.Http.Query

namespace ApiProbe.Http

/-- Value of the first query parameter of that name. -/
def Request.queryParameter (request : Request) (name : String) : Option String :=
  ((Query.parameters request.url).find? fun entry => entry.1 == name).map Prod.snd

end ApiProbe.Http
