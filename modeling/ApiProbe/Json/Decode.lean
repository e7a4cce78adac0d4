import ApiProbe.Json.Reader
import ApiProbe.Json.Printer

/-!
Decoding of documents into records, lists, numbers and names. A failure tells what was found and
what was expected, and where in the document that happened.
-/
namespace ApiProbe.Json.Decode

inductive Fault
  | wrongType (found : Json) (expected : String)
  | outOfRange (found : Int) (expected : String)
  | wrongLength (length : Nat) (expected : String)
  | unknownName (name : String) (known : List String)
  | notSingle
  | memberMissing (key : String)
  | memberRepeated (key : String)
  | noVariant (type : String)

/-- How a value is called in messages. -/
def kindText : Json → String
  | .null => "null"
  | .bool value => s!"boolean `{value}`"
  | .int n => s!"integer `{n}`"
  | .float x => s!"floating point `{floatText x}`"
  | .str text => s!"string {Text.quote text}"
  | .arr _ => "sequence"
  | .obj _ => "map"

/-- The names that are allowed, as an enumeration. -/
def choicesText (known : List String) : String :=
  match known.map fun name => s!"`{name}`" with
  | [] => "there are no variants"
  | [name] => s!"expected {name}"
  | [first, second] => s!"expected {first} or {second}"
  | names => "expected one of " ++ ", ".intercalate names

def Fault.message : Fault → String
  | .wrongType found expected => s!"invalid type: {kindText found}, expected {expected}"
  | .outOfRange found expected => s!"invalid value: integer `{found}`, expected {expected}"
  | .wrongLength length expected => s!"invalid length {length}, expected {expected}"
  | .unknownName name known => s!"unknown variant `{name}`, {choicesText known}"
  | .notSingle => "invalid value: map, expected map with a single key"
  | .memberMissing key => s!"missing field `{key}`"
  | .memberRepeated key => s!"duplicate field `{key}`"
  | .noVariant type => s!"data did not match any variant of untagged enum {type}"

/-- A step into a document. -/
inductive Step
  | member (key : String)
  | item (index : Nat)

/-- A fault and the way to the value that has it. -/
structure Failure where
  fault : Fault
  trail : List Step

def Failure.message (failure : Failure) : String := failure.fault.message

def fail {α : Type} (fault : Fault) : Except Failure α := .error ⟨fault, []⟩

/-- Runs a decoder one step further down. -/
def under {α : Type} (step : Step) : Except Failure α → Except Failure α
  | .ok value => .ok value
  | .error failure => .error { failure with trail := step :: failure.trail }

def string : Json → Except Failure String
  | .str text => .ok text
  | other => fail (.wrongType other "a string")

def bool : Json → Except Failure Bool
  | .bool value => .ok value
  | other => fail (.wrongType other "a boolean")

/-- A number from zero up to a limit. -/
def nat (limit : Nat) (type : String) : Json → Except Failure Nat
  | .int n => if 0 ≤ n && n ≤ limit then .ok n.toNat else fail (.outOfRange n type)
  | other => fail (.wrongType other type)

/-- Numbers of 16 and 64 bits, and sizes. -/
def nat16 : Json → Except Failure Nat := nat 65535 "u16"
def nat64 : Json → Except Failure Nat := nat 18446744073709551615 "u64"
def size : Json → Except Failure Nat := nat 18446744073709551615 "usize"

/-- Null stands for nothing. -/
def optional {α : Type} (decode : Json → Except Failure α) : Json → Except Failure (Option α)
  | .null => .ok none
  | value => (decode value).map some

def items {α : Type} (decode : Json → Except Failure α) (index : Nat) :
    List Json → Except Failure (List α)
  | [] => .ok []
  | value :: rest => do
    let first ← under (.item index) (decode value)
    let others ← items decode (index + 1) rest
    pure (first :: others)

def list {α : Type} (decode : Json → Except Failure α) : Json → Except Failure (List α)
  | .arr values => items decode 0 values
  | other => fail (.wrongType other "a sequence")

/-- What a name stands for. `known` is how names are listed when it is none of them. -/
def named {α : Type} (table : List (String × α)) (known : List String) (text : String) :
    Except Failure α :=
  match table.lookup text with
  | some value => .ok value
  | none => fail (.unknownName text known)

/-- One of a number of names, alone or as the only key of an object, with null under it. -/
def name {α : Type} (table : List (String × α)) (known : List String) :
    Json → Except Failure α
  | .str text => named table known text
  | .obj [(text, content)] => do
    let value ← named table known text
    match content with
    | .null => pure value
    | other => fail (.wrongType other "unit")
  | .obj _ => fail .notSingle
  | other => fail (.wrongType other "string or map")

/-- A name from a list of values. -/
def oneOf {α : Type} (values : List α) (nameOf : α → String) : Json → Except Failure α :=
  name (values.map fun value => (nameOf value, value)) (values.map nameOf)

/-- A member that a record may have, and the test that its value must pass. -/
structure Member where
  key : String
  required : Bool
  check : Json → Except Failure Unit

def required {α : Type} (key : String) (decode : Json → Except Failure α) : Member :=
  ⟨key, true, fun value => (decode value).map fun _ => ()⟩

def possible {α : Type} (key : String) (decode : Json → Except Failure α) : Member :=
  ⟨key, false, fun value => (decode value).map fun _ => ()⟩

/-- Tests the values of members that the record knows, each of which may be there once. Others do
not matter. -/
def checkMembers (members : List Member) (before : List String) :
    List (String × Json) → Except Failure Unit
  | [] => .ok ()
  | (key, value) :: rest =>
    match members.find? fun entry => entry.key == key with
    | some entry =>
      if before.contains key then fail (.memberRepeated key)
      else do
        under (.member key) (entry.check value)
        checkMembers members (key :: before) rest
    | none => checkMembers members before rest

/-- The first required member that is not there. -/
def checkPresent (members : List Member) (present : Table Json) : Except Failure Unit :=
  match members.find? fun entry => entry.required && !present.contains entry.key with
  | some entry => fail (.memberMissing entry.key)
  | none => .ok ()

/-- Pairs the values of a list with the members of a record, in order. -/
def pairUp (expected : String) (index : Nat) :
    List Member → List Json → Except Failure (List (String × Json))
  | [], [] => .ok []
  | [], rest => fail (.wrongLength (index + rest.length) "fewer elements in array")
  | entry :: more, [] =>
    if entry.required then fail (.wrongLength index expected)
    else pairUp expected (index + 1) more []
  | entry :: more, value :: rest => do
    under (.item index) (entry.check value)
    let others ← pairUp expected (index + 1) more rest
    pure ((entry.key, value) :: others)

/-- The members of a record. A list gives them in the order in which they are declared. -/
def record (type : String) (members : List Member) : Json → Except Failure (Table Json)
  | .obj written => do
    checkMembers members [] written
    let present := Table.ofPairs written
    checkPresent members present
    pure present
  | .arr values => do
    let expected := s!"struct {type} with {members.length} elements"
    pure (Table.ofPairs (← pairUp expected 0 members values))
  | other => fail (.wrongType other s!"struct {type}")

/-- A member that is there. -/
def get {α : Type} (present : Table Json) (key : String) (decode : Json → Except Failure α) :
    Except Failure α :=
  match present.find? key with
  | some value => under (.member key) (decode value)
  | none => fail (.memberMissing key)

/-- A member, or a value in its place. -/
def getOr {α : Type} (present : Table Json) (key : String) (decode : Json → Except Failure α)
    (otherwise : α) : Except Failure α :=
  match present.find? key with
  | some value => under (.member key) (decode value)
  | none => .ok otherwise

end ApiProbe.Json.Decode
