import ApiProbe.Table
import ApiProbe.Decimal.Notation

/-!
JSON documents. Whole numbers and other numbers are kept apart, as documents do: `1` and `1.0` are
different values. The members of an object that was read are a table, so they are listed in key order;
an object that is only written may list them in an order of its own.
-/
namespace ApiProbe

inductive Json
  | null
  | bool (value : Bool)
  | int (value : Int)
  | float (value : Float)
  | str (value : String)
  | arr (items : List Json)
  | obj (members : List (String × Json))
  deriving Inhabited

namespace Json

/-- A text, or null for none. -/
def ofText? : Option String → Json
  | some text => .str text
  | none => .null

def isNull : Json → Bool
  | .null => true
  | _ => false

def member? (key : String) : Json → Option Json
  | .obj members => Table.find? members key
  | _ => none

def str? : Json → Option String
  | .str text => some text
  | _ => none

def bool? : Json → Option Bool
  | .bool value => some value
  | _ => none

def int? : Json → Option Int
  | .int value => some value
  | _ => none

mutual

/-- Equality of documents; numbers of the two kinds are never equal. -/
def same : Json → Json → Bool
  | .null, .null => true
  | .bool a, .bool b => a == b
  | .int a, .int b => a == b
  | .float a, .float b => a == b
  | .str a, .str b => a == b
  | .arr a, .arr b => sameItems a b
  | .obj a, .obj b => sameMembers a b
  | _, _ => false

def sameItems : List Json → List Json → Bool
  | [], [] => true
  | a :: restA, b :: restB => same a b && sameItems restA restB
  | _, _ => false

def sameMembers : List (String × Json) → List (String × Json) → Bool
  | [], [] => true
  | (ka, a) :: restA, (kb, b) :: restB => ka == kb && same a b && sameMembers restA restB
  | _, _ => false

end

mutual

/-- The document with the members of every object in key order; of members with the same key the
last one stays. -/
def sorted : Json → Json
  | .arr items => .arr (sortedItems items)
  | .obj members => .obj (Table.ofPairs (sortedMembers members))
  | other => other

def sortedItems : List Json → List Json
  | [] => []
  | item :: rest => sorted item :: sortedItems rest

def sortedMembers : List (String × Json) → List (String × Json)
  | [] => []
  | (key, value) :: rest => (key, sorted value) :: sortedMembers rest

end

end Json
end ApiProbe
