import ApiProbe.Machine.Library

/-!
Items, members and characters of values: reading one, and the value as it is with another one in its
place.
-/
namespace ApiProbe.Machine

/-- The integer that a key is, or the complaint that it is none. -/
def intKey (key : Value) : Except Fault Int :=
  match key with
  | .int n => .ok n
  | other => .error (.mismatch "i64" other.kindName)

/-- The place in a row that a key means. -/
def placeIn (size : Nat) (key : Value) (fault : Nat → Int → Fault) : Except Fault Nat := do
  let n ← intKey key
  match indexIn? size n with
  | some place => pure place
  | none => throw (fault size n)

/-- What stands under a key in brackets. An integer has bits, the lowest one first. -/
def item (target key : Value) : Result :=
  match target with
  | .list items => do pure ((items[← placeIn items.length key .listBounds]?).getD .unit)
  | .str text => do
    let chars := text.toList
    pure (((chars[← placeIn chars.length key .textBounds]?).map Value.char).getD .unit)
  | .record members =>
    match key with
    | .str name => .ok ((Table.find? members name).getD .unit)
    | other => .error (.mismatch "string" other.kindName)
  | .int n => do
    let place ← placeIn 64 key fun _ index => .bitBounds index
    pure (.bool ((BitVec.ofInt 64 n).getLsbD place))
  | other => .error (.notIndexable other.kindName key.kindName)

/-- The target with another value under a key in brackets. -/
def withItem (target key value : Value) : Result :=
  match target with
  | .list items => do pure (.list (items.set (← placeIn items.length key .listBounds) value))
  | .str text => do
    let chars := text.toList
    let place ← placeIn chars.length key .textBounds
    match value with
    | .char c => pure (.str (String.ofList (chars.set place c)))
    | other => throw (.mismatch "char" other.kindName)
  | .record members =>
    match key with
    | .str name => .ok (.record (Table.insert name value members))
    | other => .error (.mismatch "string" other.kindName)
  | .int n => do
    let place ← placeIn 64 key fun _ index => .bitBounds index
    match value with
    | .bool bit =>
      let mask : BitVec 64 := 1#64 <<< place
      let bits := BitVec.ofInt 64 n
      pure (.int (if bit then bits ||| mask else bits &&& ~~~mask).toInt)
    | other => throw (.mismatch "bool" other.kindName)
  | other => .error (.notIndexable other.kindName key.kindName)

/-- The target with another value under the name of a property. -/
def withProperty (target : Value) (name : String) (value : Value) : Result :=
  match target with
  | .record members => .ok (.record (Table.insert name value members))
  | other => .error (.fixedProperty name other.kindName value.kindName)

/-- What an assignment with an operator puts in place of a value. A list takes up what is added to
it, its items if it is a list. An integer that is divided by an integer stays one. -/
def combined (sign : String) (current value : Value) : Result :=
  match sign, current, value with
  | "/", .int a, .int b => Integer.quotient a b
  | "+", .list items, .list others => .ok (.list (items ++ others))
  | "+", .list items, item => .ok (.list (items ++ [item]))
  | _, _, _ =>
    (operator? sign current value).getD (.error (.functionNotFound sign [current, value]))

/-- What a loop goes through. -/
inductive Course
  | through (items : List Value)
  | count (first last : Int)

namespace Course

def of? : Value → Option Course
  | .list items => some (.through items)
  | .str text => some (.through (text.toList.map .char))
  | .range first last closed => some (.count first (if closed then last + 1 else last))
  | _ => none

/-- The next value and what comes behind it. -/
def next? : Course → Option (Value × Course)
  | .through [] => none
  | .through (value :: rest) => some (value, .through rest)
  | .count first last => if first < last then some (.int first, .count (first + 1) last) else none

end Course
end ApiProbe.Machine
