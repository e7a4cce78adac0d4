import ApiProbe.Machine.Library.Texts

/-!
Assertions. A check has a verdict on the subject and a claim in words; whether it passes is the
verdict, turned round if the expectation is negated. Numbers of the two kinds compare by value.
-/
namespace ApiProbe.Machine

/-- How a number relates to its bound. -/
inductive Relation
  | above | below | least | most
  deriving Repr, DecidableEq

namespace Relation

def holds (relation : Relation) (order : Ordering) : Bool :=
  match relation with
  | .above => order == .gt
  | .below => order == .lt
  | .least => order != .lt
  | .most => order != .gt

def words : Relation → String
  | .above => "above"
  | .below => "below"
  | .least => "at least"
  | .most => "at most"

end Relation

inductive Check
  /-- Equality, with the name of the variable that the other side is, if it is one. -/
  | equal (expected : Value) (binding : Option String)
  | eql (expected : Value)
  | kind (name : String)
  | truthy
  | is (value : Bool)
  | null
  | undefined
  | present
  | empty
  | property (key : String) (expected : Option Value)
  | size (expected : Int)
  | include (item : Value)
  | pattern (text : String)
  | bound (relation : Relation) (limit : Value)
  | within (low high : Value)
  | oneOf (options : List Value)

namespace Value

/-- Equality of values as they are: lists and records are never equal to anything. -/
def strictEqual (left right : Value) : Bool :=
  if left.isComposite || right.isComposite then false
  else if left.isUnit || right.isUnit then left.isUnit && right.isUnit
  else
    match left.number?, right.number? with
    | some a, some b => a.compare? b == some .eq
    | _, _ =>
      match left, right with
      | .bool a, .bool b => a == b
      | _, _ =>
        match left.text?, right.text? with
        | some a, some b => a == b
        | _, _ => false

/-- Equality of contents: both stand for the same document. -/
def deepEqual (left right : Value) : Bool := left.toJson.same right.toJson

/-- Number of characters, items or members. -/
def size? (value : Value) : Option Nat :=
  match value.text? with
  | some text => some text.length
  | none =>
    match value with
    | .list items => some items.length
    | .record members => some members.length
    | _ => none

end Value

namespace Expectation

def of (subject : Value) : Expectation Value := ⟨subject, none, false, false⟩

/-- The expectation of a value that was read from a variable. -/
def bound (subject : Value) (binding : String) : Expectation Value :=
  ⟨subject, some binding, false, false⟩

def negate (e : Expectation Value) : Expectation Value := { e with negated := !e.negated }

def deepen (e : Expectation Value) : Expectation Value := { e with deep := true }

def compare (e : Expectation Value) (left right : Value) : Bool :=
  if e.deep then left.deepEqual right else left.strictEqual right

/-- Whether the subject contains an item, a part or a member. -/
def includes (e : Expectation Value) (item : Value) : Bool :=
  match e.subject.text? with
  | some text =>
    match item.text? with
    | some part => (Text.indexOf? part.toList text.toList).isSome
    | none => false
  | none =>
    match e.subject, item with
    | .list items, _ => items.any fun candidate => e.compare candidate item
    | .record members, .record part =>
      part.all fun (key, value) =>
        match Table.find? members key with
        | some actual => actual.deepEqual value
        | none => false
    | .record members, _ =>
      match item.text? with
      | some key => Table.contains members key
      | none => false
    | _, _ => false

/-- The member of the subject under a key. -/
def member? (e : Expectation Value) (key : String) : Option Value :=
  match e.subject with
  | .record members => Table.find? members key
  | _ => none

/-- The subject as a number, or the complaint that it is none. -/
def number (e : Expectation Value) : Except Fault Exact :=
  match e.subject.number? with
  | some number => .ok number
  | none => .error (.say s!"expected {e.subject.described} to be a number")

end Expectation

/-- A bound as a number, or the complaint that it is none. -/
def boundNumber (limit : Value) : Except Fault Exact :=
  match limit.number? with
  | some number => .ok number
  | none => .error (.say s!"{limit.described} is not a number")

/-- Whether two numbers are in a relation; there is none to what is not a number. -/
def Relation.between (relation : Relation) (a b : Exact) : Bool :=
  match a.compare? b with
  | some order => relation.holds order
  | none => false

namespace Check

/-- Whether what a check says of the subject is true. Negation has no part in it. -/
def verdict (check : Check) (e : Expectation Value) : Except Fault Bool :=
  match check with
  | .equal expected binding =>
    let same := binding.isSome && e.binding == binding && e.subject.isComposite
    .ok (same || e.compare e.subject expected)
  | .eql expected => .ok (e.subject.deepEqual expected)
  | .kind name =>
    .ok (e.subject.scriptKind == name.toLower || (e.subject.isUnit && name.toLower == "null"))
  | .truthy => .ok e.subject.isTruthy
  | .is value =>
    .ok (match e.subject with
      | .bool actual => actual == value
      | _ => false)
  | .null | .undefined => .ok e.subject.isUnit
  | .present => .ok (!e.subject.isUnit)
  | .empty => .ok (e.subject.size? == some 0)
  | .property key expected =>
    .ok (match e.member? key, expected with
      | some actual, some expected => e.compare actual expected
      | some _, none => true
      | none, _ => false)
  | .size expected => .ok (e.subject.size?.map Int.ofNat == some expected)
  | .include item => .ok (e.includes item)
  | .pattern text => do
    let regex ← Library.compile text
    pure (match e.subject.text? with
      | some subject => regex.matches_ subject
      | none => false)
  | .bound relation limit => do
    let bound ← boundNumber limit
    pure (relation.between (← e.number) bound)
  | .within low high => do
    let first ← boundNumber low
    let last ← boundNumber high
    let actual ← e.number
    pure (Relation.least.between actual first && Relation.most.between actual last)
  | .oneOf options => .ok (options.any fun option => e.compare e.subject option)

/-- The word that goes in front of the name of a kind. -/
def article (name : String) : String :=
  match name.toList.head? with
  | some c => if ['a', 'e', 'i', 'o', 'u'].contains c then "an" else "a"
  | none => "a"

/-- What a check says of the subject, in words that follow "expected ... to". -/
def claim (check : Check) (e : Expectation Value) : String :=
  match check with
  | .equal expected _ => (if e.deep then "deeply equal " else "equal ") ++ expected.described
  | .eql expected => s!"deeply equal {expected.described}"
  | .kind name => s!"be {article name.toLower} {name.toLower}"
  | .truthy => "be truthy"
  | .is value => s!"be {value}"
  | .null => "be null"
  | .undefined => "be undefined"
  | .present => "exist"
  | .empty => "be empty"
  | .property key none => s!"have property '{key}'"
  | .property key (some expected) => s!"have property '{key}' of {expected.described}"
  | .size expected =>
    match e.subject.size? with
    | some actual => s!"have length {expected} but got {actual}"
    | none => s!"have length {expected}"
  | .include item => s!"include {item.described}"
  | .pattern text => s!"match /{text}/"
  | .bound relation limit => s!"be {relation.words} {limit.described}"
  | .within low high => s!"be within {low.described}..{high.described}"
  | .oneOf options => s!"be one of {(Value.list options).described}"

/-- The expectation that goes on behind a check that has passed: on to the value of a property, if
that was what was checked. -/
def after (check : Check) (e : Expectation Value) : Expectation Value :=
  match check with
  | .property key _ =>
    match e.negated, e.member? key with
    | false, some value => { e with subject := value, binding := none }
    | _, _ => e
  | _ => e

/-- Passes if the verdict is as expected, and fails with the claim otherwise. -/
def run (check : Check) (e : Expectation Value) : Except Fault (Expectation Value) := do
  let verdict ← check.verdict e
  if verdict != e.negated then pure (check.after e)
  else
    let negation := if e.negated then "not " else ""
    throw (.say s!"expected {e.subject.described} to {negation}{check.claim e}")

/-- Checks that are written as properties. -/
def ofProperty? : String → Option Check
  | "ok" => some .truthy
  | "is_true" => some (.is true)
  | "is_false" => some (.is false)
  | "is_null" => some .null
  | "is_undefined" => some .undefined
  | "exist" => some .present
  | "empty" => some .empty
  | _ => none

/-- Names of the relations. -/
def relation? : String → Option Relation
  | "above" | "greaterThan" | "gt" => some .above
  | "below" | "lessThan" | "lt" => some .below
  | "least" => some .least
  | "most" => some .most
  | _ => none

/-- Checks that are written as calls. -/
def ofCall? (name : String) (args : List Value) : Option Check :=
  match name, args with
  | "equal", [expected] | "equals", [expected] => some (.equal expected none)
  | "equalBound", [expected, .str binding] => some (.equal expected (some binding))
  | "eql", [expected] => some (.eql expected)
  | "a", [.str name] | "an", [.str name] => some (.kind name)
  | "property", [.str key] => some (.property key none)
  | "property", [.str key, expected] => some (.property key (some expected))
  | "length", [.int expected] | "lengthOf", [.int expected] => some (.size expected)
  | "include", [item] | "contain", [item] | "includes", [item] => some (.include item)
  | "matches", [.str text] => some (.pattern text)
  | "within", [low, high] => some (.within low high)
  | "oneOf", [.list options] => some (.oneOf options)
  | _, [limit] => (relation? name).map fun relation => .bound relation limit
  | _, _ => none

end Check

/-- Words that only make an assertion read well. -/
def chainWords : List String :=
  ["to", "be", "been", "that", "which", "and", "has", "have", "with_", "at", "of", "same", "does",
    "is"]

end ApiProbe.Machine
