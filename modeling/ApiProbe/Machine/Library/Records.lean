import ApiProbe.Machine.Library.Basic

/-!
Functions of records.
-/
namespace ApiProbe.Machine.Library

mutual

/-- Text of a value as a member: records and lists like documents, other values as they are shown
inside of lists. -/
def memberText : Value → String
  | .unit => "null"
  | .list items => "[" ++ itemsText items ++ "]"
  | .record members => "\x7b" ++ membersText members ++ "\x7d"
  | value => value.inspect

def itemsText : List Value → String
  | [] => ""
  | [item] => memberText item
  | item :: rest => memberText item ++ "," ++ itemsText rest

def membersText : List (String × Value) → String
  | [] => ""
  | [(key, value)] => Text.quote key ++ ":" ++ memberText value
  | (key, value) :: rest =>
    Text.quote key ++ ":" ++ memberText value ++ "," ++ membersText rest

end

def recordCall? (name : String) (members : Table Value) : Answer :=
  match name with
  | "len" | "size" => .value (.int members.length)
  | "is_empty" => .value (.bool members.isEmpty)
  | "clear" => .change (.record [])
  | "keys" => .value (.list (members.keys.map .str))
  | "values" => .value (.list members.values)
  | "to_json" => .value (.str (memberText (.record members)))
  | _ => none

/-- Functions of a record and the name of a member. -/
def memberCall? (name : String) (members : Table Value) (key : String) : Answer :=
  match name with
  | "contains" => .value (.bool (members.contains key))
  | "get" => .value ((members.find? key).getD .unit)
  | "remove" =>
    match members.find? key with
    | some value => .both value (.record (members.erase key))
    | none => .value .unit
  | _ => none

def records? (name : String) (args : List Value) : Answer :=
  match args with
  | [.record members] => recordCall? name members
  | [.record members, .str key] => memberCall? name members key
  | [.record members, .record others] =>
    match name with
    | "mixin" => .change (.record (Table.union members others))
    | "fill_with" => .change (.record (Table.union others members))
    | _ => none
  | [.record members, .str key, value] =>
    if name == "set" then .change (.record (Table.insert key value members)) else none
  | _ => none

end ApiProbe.Machine.Library
