import ApiProbe.Json.Value
import ApiProbe.Decimal.Reading

/-!
Reading JSON text. The reader keeps its place as a line and a column counted in bytes, so that an
error says where it arose. A document nests at most 127 levels deep. Of two members with one key the
last one stays, unless a document is wanted as it is written.
-/
namespace ApiProbe.Json

inductive Fault
  | endInList | endInObject | endInString | endInValue
  | colonExpected | listEndExpected | objectEndExpected | wordExpected | valueExpected
  | badEscape | badNumber | numberRange | controlInString | keyNotString
  | loneSurrogate | trailingComma | trailingText | shortEscape | tooDeep
  deriving Repr, DecidableEq

def Fault.message : Fault → String
  | .endInList => "EOF while parsing a list"
  | .endInObject => "EOF while parsing an object"
  | .endInString => "EOF while parsing a string"
  | .endInValue => "EOF while parsing a value"
  | .colonExpected => "expected `:`"
  | .listEndExpected => "expected `,` or `]`"
  | .objectEndExpected => "expected `,` or `\x7d`"
  | .wordExpected => "expected ident"
  | .valueExpected => "expected value"
  | .badEscape => "invalid escape"
  | .badNumber => "invalid number"
  | .numberRange => "number out of range"
  | .controlInString => "control character (\\u0000-\\u001F) found while parsing a string"
  | .keyNotString => "key must be a string"
  | .loneSurrogate => "lone leading surrogate in hex escape"
  | .trailingComma => "trailing comma"
  | .trailingText => "trailing characters"
  | .shortEscape => "unexpected end of hex escape"
  | .tooDeep => "recursion limit exceeded"

/-- A line, counted from one, and a column: the bytes of that line up to the place. -/
structure Place where
  line : Nat
  column : Nat
  deriving Repr, DecidableEq

def Place.text (place : Place) : String := s!"line {place.line} column {place.column}"

def Place.after (place : Place) (c : Char) : Place :=
  if c == '\n' then ⟨place.line + 1, 0⟩ else ⟨place.line, place.column + c.utf8Size⟩

/-- The place `bytes` bytes further on; it may lie inside a character. -/
def Place.advance (place : Place) : Nat → List Char → Place
  | _, [] => place
  | bytes, c :: rest =>
    if bytes == 0 then place
    else if c.utf8Size ≤ bytes then (place.after c).advance (bytes - c.utf8Size) rest
    else ⟨place.line, place.column + bytes⟩

structure ReadError where
  fault : Fault
  place : Place
  deriving Repr, DecidableEq

def ReadError.message (error : ReadError) : String :=
  s!"{error.fault.message} at {error.place.text}"

/-- What is left to read, and where it starts. -/
structure Cursor where
  rest : List Char
  place : Place

namespace Cursor

def start (text : String) : Cursor := ⟨text.toList, ⟨1, 0⟩⟩

/-- Moves over the next character. -/
def skip (cursor : Cursor) : Cursor :=
  match cursor.rest with
  | [] => cursor
  | c :: rest => ⟨rest, cursor.place.after c⟩

def skipMany : Nat → Cursor → Cursor
  | 0, cursor => cursor
  | n + 1, cursor => skipMany n cursor.skip

def isSpace (c : Char) : Bool := c == ' ' || c == '\n' || c == '\t' || c == '\r'

def skipSpaces (cursor : Cursor) : Cursor :=
  cursor.skipMany (cursor.rest.takeWhile isSpace).length

def digits (cursor : Cursor) : List Char := cursor.rest.takeWhile Char.isDigit

/-- An error about what has been read. -/
def fail (cursor : Cursor) (fault : Fault) : ReadError := ⟨fault, cursor.place⟩

/-- An error about the byte that comes next. -/
def failNext (cursor : Cursor) (fault : Fault) : ReadError :=
  ⟨fault, cursor.place.advance 1 cursor.rest⟩

end Cursor

/-- The rest of a fixed word, of which the first letter has been read. -/
def readWord : List Char → Cursor → Except ReadError Cursor
  | [], cursor => .ok cursor
  | expected :: more, cursor =>
    match cursor.rest with
    | [] => .error (cursor.fail .endInValue)
    | c :: _ =>
      if c == expected then readWord more cursor.skip else .error (cursor.skip.fail .wordExpected)

namespace Number

def maxWhole : Nat := 18446744073709551615

/-- Takes digits into a significand while it fits 64 bits; counts the digits taken. -/
def absorb (significand : Nat) : List Char → Nat × Nat
  | [] => (significand, 0)
  | c :: rest =>
    let next := significand * 10 + Decimal.digitValue c
    if next > maxWhole then (significand, 0)
    else
      let (total, taken) := absorb next rest
      (total, taken + 1)

def tenTo (n : Nat) : Float := Float.ofScientific 1 false n

/-- `size · 10 ^ exponent`, each step rounded: one multiplication or division by a power of ten,
after divisions by `1e308` while the exponent is below the range. -/
def scale : Nat → Float → Int → Option Float
  | 0, _, _ => some 0.0
  | fuel + 1, size, exponent =>
    if exponent.natAbs ≤ 308 then
      if 0 ≤ exponent then
        let product := size * tenTo exponent.toNat
        if product.isInf then none else some product
      else some (size / tenTo exponent.natAbs)
    else if size == 0.0 then some size
    else if 0 ≤ exponent then none
    else scale fuel (size / 1e308) (exponent + 308)

def finish (cursor : Cursor) (negative : Bool) (significand : Nat) (exponent : Int) :
    Except ReadError (Json × Cursor) :=
  match scale 8 (Float.ofNat significand) exponent with
  | some size => .ok (.float (if negative then -size else size), cursor)
  | none => .error (cursor.fail .numberRange)

def maxExponent : Nat := 2147483647

/-- The exponent of a number; the cursor stands on its letter. -/
def readExponent (cursor : Cursor) (negative : Bool) (significand : Nat) (start : Int) :
    Except ReadError (Json × Cursor) :=
  let afterLetter := cursor.skip
  let (below, body) :=
    match afterLetter.rest with
    | '+' :: _ => (false, afterLetter.skip)
    | '-' :: _ => (true, afterLetter.skip)
    | _ => (false, afterLetter)
  match body.rest with
  | [] => .error (body.fail .endInValue)
  | c :: _ =>
    if !c.isDigit then .error (body.skip.fail .badNumber)
    else
      let digits := body.digits
      let size := Decimal.ofDigits 0 digits
      let after := body.skipMany digits.length
      if size > maxExponent then
        if significand != 0 && !below then
          let kept := (List.range digits.length).takeWhile fun n =>
            Decimal.ofDigits 0 (digits.take (n + 1)) ≤ maxExponent
          .error ((body.skipMany (kept.length + 1)).fail .numberRange)
        else .ok (.float (if negative then -0.0 else 0.0), after)
      else
        let total := if below then start - Int.ofNat size else start + Int.ofNat size
        finish after negative significand total

def isExponentMark : List Char → Bool
  | c :: _ => c == 'e' || c == 'E'
  | [] => false

/-- The fraction of a number; the cursor stands on its point. Digits past 64 bits are dropped. -/
def readFraction (cursor : Cursor) (negative : Bool) (significand : Nat) (dropped : Nat) :
    Except ReadError (Json × Cursor) :=
  let body := cursor.skip
  let digits := body.digits
  if digits.isEmpty then
    .error (body.failNext (if body.rest.isEmpty then .endInValue else .badNumber))
  else
    let (total, taken) := absorb significand digits
    let exponent := Int.ofNat dropped - Int.ofNat taken
    let after := body.skipMany digits.length
    if isExponentMark after.rest then readExponent after negative total exponent
    else finish after negative total exponent

/-- A whole number in the range of documents, or its nearest float. -/
def whole (negative : Bool) (significand : Nat) : Json :=
  if !negative then .int significand
  else if significand == 0 || significand > Nat.pow 2 63 then .float (-(Float.ofNat significand))
  else .int (-(Int.ofNat significand))

/-- A number after its sign. -/
def read (cursor : Cursor) (negative : Bool) : Except ReadError (Json × Cursor) :=
  match cursor.rest with
  | [] => .error (cursor.fail .endInValue)
  | c :: _ =>
    if !c.isDigit then .error (cursor.skip.fail .badNumber)
    else
      let digits := if c == '0' then [c] else cursor.digits
      let (significand, taken) := absorb 0 digits
      let dropped := digits.length - taken
      let after := cursor.skipMany digits.length
      if c == '0' && !after.digits.isEmpty then .error (after.failNext .badNumber)
      else
        match after.rest with
        | '.' :: _ => readFraction after negative significand dropped
        | rest =>
          if isExponentMark rest then readExponent after negative significand dropped
          else if dropped == 0 then .ok (whole negative significand, after)
          else finish after negative significand dropped

end Number

namespace Str

def hexValue? (c : Char) : Option Nat :=
  if c.isDigit then some (c.toNat - 48)
  else if 'a' ≤ c && c ≤ 'f' then some (c.toNat - 87)
  else if 'A' ≤ c && c ≤ 'F' then some (c.toNat - 55)
  else none

def byteLength (chars : List Char) : Nat := chars.foldl (fun n c => n + c.utf8Size) 0

/-- Four hexadecimal digits. -/
def readHex (cursor : Cursor) : Except ReadError (Nat × Cursor) :=
  match cursor.rest.take 4 with
  | [a, b, c, d] =>
    match hexValue? a, hexValue? b, hexValue? c, hexValue? d with
    | some a, some b, some c, some d =>
      .ok (((a * 16 + b) * 16 + c) * 16 + d, cursor.skipMany 4)
    | _, _, _, _ => .error ⟨.badEscape, cursor.place.advance 4 cursor.rest⟩
  | chars =>
    if byteLength chars < 4 then
      .error ⟨.endInString, cursor.place.advance (byteLength chars) cursor.rest⟩
    else .error ⟨.badEscape, cursor.place.advance 4 cursor.rest⟩

/-- A character written by code, after `\u`: four digits, or two groups that make a pair. -/
def readCode (cursor : Cursor) : Except ReadError (Char × Cursor) := do
  let (lead, after) ← readHex cursor
  if 0xDC00 ≤ lead && lead ≤ 0xDFFF then throw (after.fail .loneSurrogate)
  else if lead < 0xD800 || lead > 0xDBFF then pure (Char.ofNat lead, after)
  else
    match after.rest with
    | [] => throw (after.fail .endInString)
    | '\\' :: _ =>
      match after.skip.rest with
      | [] => throw (after.skip.fail .endInString)
      | 'u' :: _ =>
        let (trail, last) ← readHex (after.skipMany 2)
        if trail < 0xDC00 || trail > 0xDFFF then throw (last.fail .loneSurrogate)
        else pure (Char.ofNat ((lead - 0xD800) * 1024 + (trail - 0xDC00) + 0x10000), last)
      | _ :: _ => throw ((after.skipMany 2).fail .shortEscape)
    | c :: _ => throw (⟨.shortEscape, after.place.advance 1 [c]⟩)

def shortEscape? : Char → Option Char
  | '"' => some '"'
  | '\\' => some '\\'
  | '/' => some '/'
  | 'b' => some (Char.ofNat 8)
  | 'f' => some (Char.ofNat 12)
  | 'n' => some '\n'
  | 'r' => some '\r'
  | 't' => some '\t'
  | _ => none

/-- The characters of a string up to its closing quote, added in reverse to those in `read`. -/
def readChars : Nat → List Char → Cursor → Except ReadError (String × Cursor)
  | 0, _, cursor => .error (cursor.fail .endInString)
  | fuel + 1, read, cursor =>
    match cursor.rest with
    | [] => .error (cursor.fail .endInString)
    | '"' :: _ => .ok (String.ofList read.reverse, cursor.skip)
    | '\\' :: rest =>
      match rest with
      | [] => .error (cursor.skip.fail .endInString)
      | 'u' :: _ =>
        match readCode (cursor.skipMany 2) with
        | .error error => .error error
        | .ok (c, after) => readChars fuel (c :: read) after
      | c :: _ =>
        match shortEscape? c with
        | some image => readChars fuel (image :: read) (cursor.skipMany 2)
        | none => .error ⟨.badEscape, cursor.skip.place.advance 1 [c]⟩
    | c :: _ =>
      if c.toNat < 32 then .error (cursor.skip.fail .controlInString)
      else readChars fuel (c :: read) cursor.skip

/-- A string after its opening quote. -/
def read (cursor : Cursor) : Except ReadError (String × Cursor) :=
  readChars (cursor.rest.length + 1) [] cursor

end Str

/-- Deepest nesting of lists and objects. -/
def maxDepth : Nat := 127

mutual

/-- One value, after any blanks. `depth` is the number of levels that may still be opened. -/
def readValue : Nat → Nat → Cursor → Except ReadError (Json × Cursor)
  | 0, _, cursor => .error (cursor.fail .tooDeep)
  | fuel + 1, depth, before =>
    let cursor := before.skipSpaces
    match cursor.rest with
    | [] => .error (cursor.failNext .endInValue)
    | c :: _ =>
      if c == 'n' then (readWord "ull".toList cursor.skip).map fun after => (.null, after)
      else if c == 't' then (readWord "rue".toList cursor.skip).map fun after => (.bool true, after)
      else if c == 'f' then
        (readWord "alse".toList cursor.skip).map fun after => (.bool false, after)
      else if c == '-' then Number.read cursor.skip true
      else if c.isDigit then Number.read cursor false
      else if c == '"' then (Str.read cursor.skip).map fun (text, after) => (.str text, after)
      else if c == '[' then
        if depth == 0 then .error (cursor.failNext .tooDeep)
        else readItems fuel (depth - 1) true [] cursor.skip
      else if c == '{' then
        if depth == 0 then .error (cursor.failNext .tooDeep)
        else readMembers fuel (depth - 1) true [] cursor.skip
      else .error (cursor.failNext .valueExpected)

/-- The items of a list, up to its closing bracket. -/
def readItems : Nat → Nat → Bool → List Json → Cursor → Except ReadError (Json × Cursor)
  | 0, _, _, _, cursor => .error (cursor.fail .tooDeep)
  | fuel + 1, depth, first, read, before =>
    let cursor := before.skipSpaces
    match cursor.rest with
    | [] => .error (cursor.failNext .endInList)
    | c :: _ =>
      if c == ']' then .ok (.arr read.reverse, cursor.skip)
      else if c == ',' && !first then
        let next := cursor.skip.skipSpaces
        match next.rest with
        | [] => .error (next.failNext .endInValue)
        | ']' :: _ => .error (next.failNext .trailingComma)
        | _ :: _ =>
          match readValue fuel depth next with
          | .error error => .error error
          | .ok (item, after) => readItems fuel depth false (item :: read) after
      else if first then
        match readValue fuel depth cursor with
        | .error error => .error error
        | .ok (item, after) => readItems fuel depth false (item :: read) after
      else .error (cursor.failNext .listEndExpected)

/-- The members of an object, up to its closing brace. -/
def readMembers : Nat → Nat → Bool → List (String × Json) → Cursor → Except ReadError (Json × Cursor)
  | 0, _, _, _, cursor => .error (cursor.fail .tooDeep)
  | fuel + 1, depth, first, read, before =>
    let cursor := before.skipSpaces
    match cursor.rest with
    | [] => .error (cursor.failNext .endInObject)
    | c :: _ =>
      if c == '}' then .ok (.obj read.reverse, cursor.skip)
      else if c == ',' && !first then
        let next := cursor.skip.skipSpaces
        match next.rest with
        | [] => .error (next.failNext .endInValue)
        | '}' :: _ => .error (next.failNext .trailingComma)
        | '"' :: _ => readMember fuel depth read next
        | _ :: _ => .error (next.failNext .keyNotString)
      else if first then
        if c == '"' then readMember fuel depth read cursor
        else .error (cursor.failNext .keyNotString)
      else .error (cursor.failNext .objectEndExpected)

/-- One member, whose key starts at the cursor, and those after it. -/
def readMember : Nat → Nat → List (String × Json) → Cursor → Except ReadError (Json × Cursor)
  | 0, _, _, cursor => .error (cursor.fail .tooDeep)
  | fuel + 1, depth, read, cursor =>
    match Str.read cursor.skip with
    | .error error => .error error
    | .ok (key, afterKey) =>
      let colon := afterKey.skipSpaces
      match colon.rest with
      | [] => .error (colon.failNext .endInObject)
      | ':' :: _ =>
        match readValue fuel depth colon.skip with
        | .error error => .error error
        | .ok (value, after) => readMembers fuel depth false ((key, value) :: read) after
      | _ :: _ => .error (colon.failNext .colonExpected)

end

/-- Steps that reading a text takes at most. -/
def stepBound (chars : List Char) : Nat := 3 * chars.length + 3

/-- Reads a whole document as it is written, with nothing but blanks around it. -/
def readWritten (text : String) : Except ReadError Json := do
  let start := Cursor.start text
  let (document, after) ← readValue (stepBound start.rest) maxDepth start
  let last := after.skipSpaces
  if last.rest.isEmpty then pure document else throw (last.failNext .trailingText)

/-- Reads a whole document, its members in key order. -/
def read (text : String) : Except ReadError Json := (readWritten text).map sorted

end ApiProbe.Json
