import ApiProbe.Machine.Library.Numbers
import ApiProbe.Machine.Library.Texts
import ApiProbe.Machine.Library.Lists
import ApiProbe.Machine.Library.Records

/-!
The functions that every script can call, and the properties that its values have. They touch
nothing outside of their arguments.
-/
namespace ApiProbe.Machine.Library

/-- A claim of a script that has to hold. -/
def claim (value : Value) (complaint : String) : Answer :=
  if value.isTruthy then .value .unit else .fail (.say complaint)

/-- Functions that take values of any kind. -/
def anything? (name : String) (args : List Value) : Answer :=
  match name, args with
  | "to_string", [value] => .value (.str value.display)
  | "to_debug", [value] => .value (.str value.inspect)
  | "toString", [value] => .value (.str value.logged)
  | "type_of", [value] => .value (.str value.kindName)
  | "typeof", [value] => .value (.str value.scriptKind)
  | "truthy", [value] => .value (.bool value.isTruthy)
  | "exit", [] => .fail (.ended .unit)
  | "exit", [value] => .fail (.ended value)
  | "assert", [value] => claim value "assertion failed"
  | "assert", [value, complaint] => claim value complaint.logged
  | _, _ => none

/-- Operators in front of a value and between two. -/
def operation? (name : String) (args : List Value) : Answer :=
  match args with
  | [value] => (prefixed? name value).bind Answer.ofResult
  | [left, right] => (operator? name left right).bind Answer.ofResult
  | _ => none

/-- A function that knows its arguments. -/
def call? (name : String) (args : List Value) : Answer :=
  [operation?, numbers?, texts?, lists?, records?, ranges?, anything?].findSome? fun find =>
    find name args

/-- A property of a value that is no record. -/
def property? (name : String) (value : Value) : Option Value :=
  match value with
  | .int n => ofInteger? name n
  | .float x => ofFloat? name x
  | .str text => if name == "length" then some (.int text.length) else ofText? name text
  | .list items => if name == "length" then some (.int items.length) else ofList? name items
  | .range first last closed => ofRange? name first last closed
  | .closure function _ =>
    match name with
    | "name" => some (.str function.name)
    | "is_anonymous" => some (.bool true)
    | _ => none
  | _ => none

end ApiProbe.Machine.Library
