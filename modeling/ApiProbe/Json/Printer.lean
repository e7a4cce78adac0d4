import ApiProbe.Json.Value
import ApiProbe.Text.Quoted

/-!
JSON text of a document: a compact form without blanks, and an indented form with one item or
member to a line.
-/
namespace ApiProbe.Json

/-- A character inside a JSON string. Quotes, backslashes and controls are escaped. -/
def escapeChar (c : Char) : List Char :=
  match c with
  | '"' => ['\\', '"']
  | '\\' => ['\\', '\\']
  | '\n' => ['\\', 'n']
  | '\r' => ['\\', 'r']
  | '\t' => ['\\', 't']
  | c =>
    if c.toNat == 8 then ['\\', 'b']
    else if c.toNat == 12 then ['\\', 'f']
    else if c.toNat < 32 then
      ['\\', 'u', '0', '0', Nat.digitChar (c.toNat / 16), Nat.digitChar (c.toNat % 16)]
    else [c]

def quoted (text : String) : String :=
  "\"" ++ String.ofList (text.toList.flatMap escapeChar) ++ "\""

/-- Text of a number; a value that is not finite has none and is written as null. -/
def floatText (x : Float) : String := (Decimal.json? x).getD "null"

mutual

/-- The compact form. -/
def compact : Json → String
  | .null => "null"
  | .bool true => "true"
  | .bool false => "false"
  | .int n => toString n
  | .float x => floatText x
  | .str text => quoted text
  | .arr items => "[" ++ compactItems items ++ "]"
  | .obj members => "\x7b" ++ compactMembers members ++ "\x7d"

def compactItems : List Json → String
  | [] => ""
  | [item] => compact item
  | item :: rest => compact item ++ "," ++ compactItems rest

def compactMembers : List (String × Json) → String
  | [] => ""
  | [(key, value)] => quoted key ++ ":" ++ compact value
  | (key, value) :: rest => quoted key ++ ":" ++ compact value ++ "," ++ compactMembers rest

end

/-- Start of a line at a nesting level. -/
def margin (level : Nat) : String := "\n" ++ String.ofList (List.replicate (2 * level) ' ')

mutual

/-- The indented form of a value that stands at a nesting level. -/
def indented (level : Nat) : Json → String
  | .null => "null"
  | .bool true => "true"
  | .bool false => "false"
  | .int n => toString n
  | .float x => floatText x
  | .str text => quoted text
  | .arr [] => "[]"
  | .arr (item :: rest) =>
    "[" ++ margin (level + 1) ++ indented (level + 1) item ++ indentedItems (level + 1) rest
      ++ margin level ++ "]"
  | .obj [] => "\x7b\x7d"
  | .obj ((key, value) :: rest) =>
    "\x7b" ++ margin (level + 1) ++ quoted key ++ ": " ++ indented (level + 1) value
      ++ indentedMembers (level + 1) rest ++ margin level ++ "\x7d"

def indentedItems (level : Nat) : List Json → String
  | [] => ""
  | item :: rest => "," ++ margin level ++ indented level item ++ indentedItems level rest

def indentedMembers (level : Nat) : List (String × Json) → String
  | [] => ""
  | (key, value) :: rest =>
    "," ++ margin level ++ quoted key ++ ": " ++ indented level value ++ indentedMembers level rest

end

def pretty (document : Json) : String := indented 0 document

end ApiProbe.Json
