import ApiProbe.Machine.Library.Basic

/-!
Functions of lists and of ranges. Many of those of lists change the list that they are called on.
-/
namespace ApiProbe.Machine.Library

/-- What a list can be asked for, as a function or as a property. -/
def ofList? (name : String) (items : List Value) : Option Value :=
  match name with
  | "len" => some (.int items.length)
  | "is_empty" => some (.bool items.isEmpty)
  | _ => none

/-- Place of the first item that equals a value. -/
def placeOf (value : Value) (place : Nat) : List Value → Except Fault (Option Nat)
  | [] => .ok none
  | item :: rest => do
    if ← equal item value then pure (some place) else placeOf value (place + 1) rest

/-- Whether two values can be compared and are equal. -/
def isEqual (a b : Value) : Bool :=
  match equal a b with
  | .ok same => same
  | .error _ => false

/-- Leaves out the items that equal the last one that was kept. -/
def dedup (kept : Value) : List Value → List Value
  | [] => [kept]
  | item :: rest => if isEqual kept item then dedup kept rest else kept :: dedup item rest

/-- Whether an item may stand before another one when both are of a kind that has an order. -/
def precedes : Value → Value → Bool
  | .int a, .int b => a ≤ b
  | .float a, .float b => !(b < a)
  | .str a, .str b => !(b < a)
  | .char a, .char b => a ≤ b
  | .bool a, .bool b => !a || b
  | _, _ => true

/-- The items in order. They have to be of one kind. -/
def sorted (items : List Value) : Except Fault (List Value) :=
  match items with
  | first :: rest =>
    if rest.all fun item => item.kindName == first.kindName then .ok (items.mergeSort precedes)
    else .error .mixedList
  | [] => .ok []

/-- Puts items in place of a stretch of others. -/
def splice (items : List Value) (first length : Nat) (others : List Value) : List Value :=
  items.take first ++ others ++ items.drop (first + length)

def listCall? (name : String) (items : List Value) : Answer :=
  match name with
  | "size" => .value (.int items.length)
  | "clear" => .change (.list [])
  | "reverse" => .change (.list items.reverse)
  | "dedup" =>
    match items with
    | first :: rest => .change (.list (dedup first rest))
    | [] => .change (.list [])
  | "sort" => some ((sorted items).map fun kept => .change (.list kept))
  | "sort_desc" => some ((sorted items).map fun kept => .change (.list kept.reverse))
  | "order" => some ((sorted items).map fun kept => .just (.list kept))
  | "order_desc" => some ((sorted items).map fun kept => .just (.list kept.reverse))
  | "pop" =>
    match items.getLast? with
    | some last => .both last (.list items.dropLast)
    | none => .value .unit
  | "shift" =>
    match items with
    | first :: rest => .both first (.list rest)
    | [] => .value .unit
  | _ => (ofList? name items).bind Answer.value

/-- Functions of a list and any value. -/
def itemCall? (name : String) (items : List Value) (value : Value) : Answer :=
  match name with
  | "push" => .change (.list (items ++ [value]))
  | "includes" =>
    let wanted := value.toJson
    .value (.bool (items.any fun item => item.toJson.same wanted))
  | "contains" => .ofResult ((placeOf value 0 items).map fun place => .bool place.isSome)
  | "index_of" =>
    .ofResult ((placeOf value 0 items).map fun place =>
      .int ((place.map Int.ofNat).getD (-1)))
  | _ => none

/-- Functions of a list and a stretch of it. -/
def sectionCall? (name : String) (items : List Value) (first length : Nat) : Answer :=
  let part := (items.drop first).take length
  let rest := splice items first length []
  match name with
  | "extract" => .value (.list part)
  | "drain" => .both (.list part) (.list rest)
  | "retain" => if length == 0 then .value (.list []) else .both (.list rest) (.list part)
  | _ => none

/-- Functions of a list and a place or a number. -/
def indexCall? (name : String) (items : List Value) (n : Int) : Answer :=
  match name with
  | "get" => .value ((items[(stretch items.length n 0).1]?).getD .unit)
  | "remove" =>
    match indexIn? items.length n with
    | some i => .both ((items[i]?).getD .unit) (.list (items.eraseIdx i))
    | none => .value .unit
  | "truncate" => .change (.list (items.take n.toNat))
  | "chop" => .change (.list (items.drop (items.length - n.toNat)))
  | "split" =>
    let (first, _) := stretch items.length n 0
    .both (.list (items.drop first)) (.list (items.take first))
  | "extract" => .value (.list (items.drop (stretch items.length n 0).1))
  | _ => none

/-- Functions of a list, a number and any value. -/
def placedCall? (name : String) (items : List Value) (n : Int) (value : Value) : Answer :=
  match name with
  | "insert" =>
    let (first, _) := stretch items.length n 0
    .change (.list (splice items first 0 [value]))
  | "set" => .change (.list (items.set (stretch items.length n 0).1 value))
  | "pad" => .change (.list (items ++ List.replicate (n.toNat - items.length) value))
  | _ => none

/-- Place of the first item from a place on that equals a value. -/
def startedCall? (name : String) (items : List Value) (value : Value) (n : Int) : Answer :=
  let (start, _) := stretch items.length n 0
  if name == "index_of" then
    .ofResult ((placeOf value start (items.drop start)).map fun place =>
      .int ((place.map Int.ofNat).getD (-1)))
  else none

def intFirst? (name : String) : List Value → Answer
  | [.list items, .int n, value] => placedCall? name items n value
  | _ => none

def lists? (name : String) (args : List Value) : Answer :=
  match args with
  | [.list items] => listCall? name items
  | [.list items, .list others] =>
    if name == "append" then .change (.list (items ++ others))
    else itemCall? name items (.list others)
  | [.list items, .int n] => (indexCall? name items n).or (itemCall? name items (.int n))
  | [.list items, .range first last closed] =>
    let (start, length) := rangeStretch items.length first last closed
    (sectionCall? name items start length).or (itemCall? name items (.range first last closed))
  | [.list items, .str separator] =>
    if name == "join" then .value (.str (separator.intercalate (items.map Value.logged)))
    else itemCall? name items (.str separator)
  | [.list items, value] => itemCall? name items value
  | [.list items, .int n, .int m] =>
    let (start, length) := stretch items.length n m
    ((sectionCall? name items start length).or (placedCall? name items n (.int m))).or
      (startedCall? name items (.int n) m)
  | [.list items, .range first last closed, .list others] =>
    let (start, length) := rangeStretch items.length first last closed
    if name == "splice" then .change (.list (splice items start length others)) else none
  | [.list items, value, .int n] => (startedCall? name items value n).or (intFirst? name args)
  | [.list _, _, _] => intFirst? name args
  | [.list items, .int n, .int m, .list others] =>
    let (start, length) := stretch items.length n m
    if name == "splice" then .change (.list (splice items start length others)) else none
  | _ => none

/-- What a range can be asked for, as a function or as a property. -/
def ofRange? (name : String) (first last : Int) (closed : Bool) : Option Value :=
  match name with
  | "start" => some (.int first)
  | "end" => some (.int last)
  | "is_inclusive" => some (.bool closed)
  | "is_exclusive" => some (.bool (!closed))
  | "is_empty" => some (.bool (if closed then last < first else last ≤ first))
  | _ => none

def ranges? (name : String) (args : List Value) : Answer :=
  match args with
  | [.range first last closed] => (ofRange? name first last closed).bind Answer.value
  | [.range first last closed, .int n] =>
    if name == "contains" then
      .value (.bool (first ≤ n && (n < last || (closed && n == last))))
    else none
  | _ => none

end ApiProbe.Machine.Library
