import ApiProbe.Plain.Syntax
import ApiProbe.Json.Printer
import ApiProbe.Decimal.Exact
import ApiProbe.Variable.Scope

/-!
Values of running scripts. Lists and records are plain values: a copy is independent of what it was
copied from. Closures share the variables that they captured, each of which has a cell. Objects stand
for what a script may speak to outside of itself.
-/
namespace ApiProbe.Machine

/-- What an assertion is about: a value, the name of the variable that was handed over with it, if
any, and whether its check is negated or compares contents. -/
structure Expectation (ν : Type) where
  subject : ν
  binding : Option String
  negated : Bool
  deep : Bool

/-- A variable: a value of its own, or a cell that closures share. -/
inductive Slot (ν : Type)
  | own (value : ν)
  | shared (cell : Nat)

inductive Object (ν : Type)
  | probe
  | request
  | response
  /-- Variables as seen from a scope, or by precedence, and written to a scope. -/
  | vars (reads : Option Scope) (writes : Scope)
  | console
  | json
  | expectation (value : Expectation ν)

inductive Value
  | unit
  | bool (value : Bool)
  | int (value : Int)
  | float (value : Float)
  | char (value : Char)
  | str (value : String)
  | list (items : List Value)
  | record (members : List (String × Value))
  | range (first last : Int) (closed : Bool)
  | closure (function : Plain.Function) (captured : List (Slot Value))
  | host (object : Object Value)

namespace Value

instance : Inhabited Value := ⟨.unit⟩

def isUnit : Value → Bool
  | .unit => true
  | _ => false

/-- The text of a text or a character. -/
def text? : Value → Option String
  | .str value => some value
  | .char c => some (String.singleton c)
  | _ => none

def ofText? : Option String → Value
  | some text => .str text
  | none => .unit

/-- The number of a number, as precise as floating-point numbers are. -/
def number? : Value → Option Exact
  | .int n => some (.ofInt n)
  | .float x => some (.ofFloat x)
  | _ => none

/-- Lists and records. -/
def isComposite : Value → Bool
  | .list _ | .record _ => true
  | _ => false

/-- What counts as true in a condition: all but the unit, false, zero, what is no number, and the
empty text. -/
def isTruthy (value : Value) : Bool :=
  match value with
  | .unit => false
  | .bool value => value
  | _ =>
    match value.number?, value.text? with
    | some number, _ => !number.isZero && !number.isNaN
    | none, some text => !text.isEmpty
    | none, none => true

end Value

namespace Object
variable {ν : Type}

/-- How scripts are told of a kind of object. -/
def kindName : Object ν → String
  | .probe => "PM"
  | .request => "Request"
  | .response => "Response"
  | .vars .. => "Variables"
  | .console => "Console"
  | .json => "JSON"
  | .expectation _ => "Expectation"

/-- What is shown in place of an object. -/
def shown : Object ν → String
  | .probe => "rest_client_scripting::scripting::pm::PmApi"
  | .request => "rest_client_scripting::scripting::pm::RequestApi"
  | .response => "rest_client_scripting::scripting::pm::ResponseApi"
  | .vars .. => "rest_client_scripting::scripting::pm::VariablesApi"
  | .console => "rest_client_scripting::scripting::helpers::Console"
  | .json => "rest_client_scripting::scripting::helpers::JsonApi"
  | .expectation _ => "rest_client_scripting::scripting::assertions::Expectation"

end Object

namespace Value

/-- Kind of a value, as `type_of` and error messages say it. -/
def kindName : Value → String
  | .unit => "()"
  | .bool _ => "bool"
  | .int _ => "i64"
  | .float _ => "f64"
  | .char _ => "char"
  | .str _ => "string"
  | .list _ => "array"
  | .record _ => "map"
  | .range _ _ false => "range"
  | .range _ _ true => "range="
  | .closure .. => "Fn"
  | .host object => object.kindName

/-- Kind of a value as an argument of a function that was not found. -/
def argumentKind : Value → String
  | .str _ => "&str | ImmutableString | String"
  | value => value.kindName

/-- Kind of a value in the words of script authors. -/
def scriptKind : Value → String
  | .unit => "undefined"
  | .bool _ => "boolean"
  | .int _ | .float _ => "number"
  | .char _ | .str _ => "string"
  | .list _ => "array"
  | .record _ | .range .. | .host _ => "object"
  | .closure .. => "function"

def rangeText (first last : Int) (closed : Bool) : String :=
  toString first ++ (if closed then "..=" else "..") ++ toString last

def functionText (function : Plain.Function) : String := s!"Fn({function.name})"

mutual

/-- A value inside a printed list: texts stand in quotes. -/
def inspect : Value → String
  | .unit => "()"
  | .bool value => toString value
  | .int n => toString n
  | .float x => Decimal.inspect x
  | .char c => "'" ++ String.singleton c ++ "'"
  | .str value => Text.quote value
  | .list items => "[" ++ inspectItems items ++ "]"
  | .record members => "#\x7b" ++ inspectMembers members ++ "\x7d"
  | .range first last closed => rangeText first last closed
  | .closure function _ => functionText function
  | .host object => object.shown

def inspectItems : List Value → String
  | [] => ""
  | [item] => inspect item
  | item :: rest => inspect item ++ ", " ++ inspectItems rest

def inspectMembers : List (String × Value) → String
  | [] => ""
  | [(key, value)] => Text.quote key ++ ": " ++ inspect value
  | (key, value) :: rest =>
    Text.quote key ++ ": " ++ inspect value ++ ", " ++ inspectMembers rest

end

/-- A value as printed on its own. -/
def display : Value → String
  | .unit => ""
  | .float x => Decimal.display x
  | .char c => String.singleton c
  | .str value => value
  | value => value.inspect

/-- Greatest size of the whole numbers that all fit into floating-point numbers. -/
def safeInteger : Nat := 9007199254740991

/-- A floating-point number as a document. A whole number of safe size becomes an integer, and what
is not finite becomes null. -/
def floatJson (x : Float) : Json :=
  let exact := Exact.ofFloat x
  match exact.toInt? with
  | some n => if n.natAbs ≤ safeInteger then .int n else .float x
  | none => if exact.isFinite then .float x else .null

mutual

/-- The document that a value stands for. -/
def toJson : Value → Json
  | .unit => .null
  | .bool value => .bool value
  | .int n => .int n
  | .float x => floatJson x
  | .char c => .str (String.singleton c)
  | .str value => .str value
  | .list items => .arr (toJsonItems items)
  | .record members => .obj (toJsonMembers members)
  | .range first last closed => .str (rangeText first last closed)
  | .closure function _ => .str (functionText function)
  | .host object => .str object.shown

def toJsonItems : List Value → List Json
  | [] => []
  | item :: rest => toJson item :: toJsonItems rest

def toJsonMembers : List (String × Value) → List (String × Json)
  | [] => []
  | (key, value) :: rest => (key, toJson value) :: toJsonMembers rest

end

mutual

/-- The value of a document. Integers beyond 64 bits with a sign become floating-point numbers. -/
def ofJson : Json → Value
  | .null => .unit
  | .bool value => .bool value
  | .int n => if Decimal.fits64 n then .int n else .float (Decimal.nearest n.natAbs 0)
  | .float x => .float x
  | .str value => .str value
  | .arr items => .list (ofJsonItems items)
  | .obj members => .record (ofJsonMembers members)

def ofJsonItems : List Json → List Value
  | [] => []
  | item :: rest => ofJson item :: ofJsonItems rest

def ofJsonMembers : List (String × Json) → List (String × Value)
  | [] => []
  | (key, value) :: rest => (key, ofJson value) :: ofJsonMembers rest

end

/-- A value as it is kept in a variable. -/
def stored (value : Value) : String :=
  match value.toJson with
  | .null => ""
  | .str text => text
  | document => document.compact

/-- A value as it is written to the log. -/
def logged (value : Value) : String :=
  match value.text? with
  | some text => text
  | none =>
    match value.toJson with
    | .null => "undefined"
    | document => document.compact

/-- A value in the message of an assertion. -/
def described (value : Value) : String :=
  match value.toJson with
  | .null => "undefined"
  | .str text => s!"'{text}'"
  | document => document.compact

mutual

/-- Whether two values are of one kind and alike in every part. Ranges, functions and objects are like
no other value. -/
def identical : Value → Value → Bool
  | .unit, .unit => true
  | .bool a, .bool b => a == b
  | .int a, .int b => a == b
  | .float a, .float b => a.toBits == b.toBits
  | .char a, .char b => a == b
  | .str a, .str b => a == b
  | .list a, .list b => identicalItems a b
  | .record a, .record b => identicalMembers a b
  | _, _ => false

def identicalItems : List Value → List Value → Bool
  | [], [] => true
  | a :: restA, b :: restB => identical a b && identicalItems restA restB
  | _, _ => false

def identicalMembers : List (String × Value) → List (String × Value) → Bool
  | [], [] => true
  | (ka, a) :: restA, (kb, b) :: restB => ka == kb && identical a b && identicalMembers restA restB
  | _, _ => false

end

/-- How many list items, record members and bytes of text a value holds in all. -/
structure Extent where
  items : Nat
  members : Nat
  bytes : Nat
  deriving Repr, DecidableEq

namespace Extent

def add (a b : Extent) : Extent := ⟨a.items + b.items, a.members + b.members, a.bytes + b.bytes⟩

end Extent

mutual

def extent : Value → Extent
  | .str value => ⟨0, 0, value.utf8ByteSize⟩
  | .list items => extentItems items
  | .record members => extentMembers members
  | _ => ⟨0, 0, 0⟩

def extentItems : List Value → Extent
  | [] => ⟨0, 0, 0⟩
  | item :: rest => ((extent item).add (extentItems rest)).add ⟨1, 0, 0⟩

def extentMembers : List (String × Value) → Extent
  | [] => ⟨0, 0, 0⟩
  | (_, value) :: rest => ((extent value).add (extentMembers rest)).add ⟨0, 1, 0⟩

end

end Value
end ApiProbe.Machine
