import ApiProbe.Machine.State
import ApiProbe.Machine.Library.Basic

/-!
Functions that call closures: those that go through a list or a record, and tests. How a closure is
called is up to the machine.
-/
namespace ApiProbe.Machine

/-- A closure ready to be called: how many arguments it takes, and what calling it does, on a
receiver if there is one. -/
structure Callback (σ : Type) where
  arity : Nat
  call : Option Value → List Value → Run σ Value

namespace Callback
variable {σ : Type}

/-- Calls with one argument. -/
def on (f : Callback σ) (item : Value) : Run σ Value := f.call none [item]

/-- Calls with an item and its place, as far as the closure wants to know of them; without
parameters the item is the receiver. -/
def withPlace (f : Callback σ) (item : Value × Nat) : Run σ Value :=
  match f.arity with
  | 0 => f.call (some item.1) []
  | 1 => f.call none [item.1]
  | _ => f.call none [item.1, .int item.2]

/-- Calls with the key and the value of a member; for the key alone the value is the receiver. -/
def withKey (f : Callback σ) (member : String × Value) : Run σ Value :=
  match f.arity with
  | 1 => f.call (some member.2) [.str member.1]
  | _ => f.call none [.str member.1, member.2]

def isTruthyOn (f : Callback σ) (item : Value) : Run σ Bool := do pure (← f.on item).isTruthy

/-- Whether the closure says exactly true. -/
def isTrueOn (f : Callback σ) (item : Value × Nat) : Run σ Bool := do
  match ← f.withPlace item with
  | .bool value => pure value
  | _ => pure false

/-- What the closure says of two items that are compared. Comparing goes on whatever happens: a closure
that fails says nothing, also if it took too much. -/
def verdict (f : Callback σ) (a b : Value) : Run σ Value := fun state =>
  match f.call none [a, b] state with
  | .error (.failure _) after => .ok .unit after
  | outcome => outcome

/-- Whether an item has to stand before another one: the closure gives a negative number. -/
def isAhead (f : Callback σ) (a b : Value) : Run σ Bool := do
  match ← f.verdict a b with
  | .int n => pure (n < 0)
  | _ => pure false

/-- Puts an item in front of those that it has to precede; the list is in falling order. -/
def insert (f : Callback σ) (item : Value) : List Value → Run σ (List Value)
  | [] => pure [item]
  | other :: rest => do
    if ← f.isAhead item other then pure (other :: (← f.insert item rest))
    else pure (item :: other :: rest)

/-- Sorts a list; items that are not told apart keep their order. -/
def sort (f : Callback σ) : List Value → List Value → Run σ (List Value)
  | done, [] => pure done.reverse
  | done, item :: rest => do f.sort (← f.insert item done) rest

/-- Combines an item with what came of those before. -/
def combine (f : Callback σ) (value item : Value) (place : Nat) : Run σ Value :=
  match f.arity with
  | 1 => f.call (some item) [value]
  | 2 => f.call none [value, item]
  | _ => f.call none [value, item, .int place]

/-- Combines the items from left to right. -/
def reduce (f : Callback σ) (value : Value) (items : List (Value × Nat)) : Run σ Value :=
  items.foldlM (fun value (item, place) => f.combine value item place) value

/-- Leaves out the items that the closure says are equal to the last one that was kept. -/
def dedup (f : Callback σ) (kept : Value) : List Value → Run σ (List Value)
  | [] => pure [kept]
  | item :: rest => do
    match ← f.verdict kept item with
    | .bool true => f.dedup kept rest
    | _ => pure (kept :: (← f.dedup item rest))

/-- The items that a test holds for and those that it does not. -/
def partition (f : Callback σ) : List (Value × Nat) → Run σ (List Value × List Value)
  | [] => pure ([], [])
  | item :: rest => do
    let holds ← f.isTrueOn item
    let (yes, no) ← f.partition rest
    pure (if holds then (item.1 :: yes, no) else (yes, item.1 :: no))

/-- The first result that is not the unit. -/
def firstResult (f : Callback σ) : List (Value × Nat) → Run σ Value
  | [] => pure .unit
  | item :: rest => do
    let value ← f.withPlace item
    if value.isUnit then f.firstResult rest else pure value

/-- A function of a list and a closure. -/
def list? (name : String) (items : List Value) (f : Callback σ) : Option (Run σ Reply) :=
  let placed := items.zipIdx
  let give (run : Run σ Value) : Option (Run σ Reply) := some do pure (.just (← run))
  match name with
  | "each" | "forEach" => give do
    items.forM fun item => discard (f.on item)
    pure .unit
  | "collect" => give do pure (.list (← items.mapM f.on))
  | "find" => give do pure ((← items.findM? f.isTruthyOn).getD .unit)
  | "findAll" => give do pure (.list (← items.filterM f.isTruthyOn))
  | "any" => give do pure (.bool (← items.anyM f.isTruthyOn))
  | "every" => give do pure (.bool (← items.allM f.isTruthyOn))
  | "map" => give do pure (.list (← placed.mapM f.withPlace))
  | "filter" => give do pure (.list (← f.partition placed).1)
  | "some" => give do pure (.bool (← placed.anyM f.isTrueOn))
  | "all" => give do pure (.bool (← placed.allM f.isTrueOn))
  | "find_map" => give (f.firstResult placed)
  | "index_of" => give do
    let found ← placed.findM? f.isTrueOn
    pure (.int ((found.map fun item => Int.ofNat item.2).getD (-1)))
  | "for_each" => give do
    placed.forM fun item => discard (f.withPlace item)
    pure .unit
  | "reduce" => give (f.reduce .unit placed)
  | "reduce_rev" => give (f.reduce .unit placed.reverse)
  | "dedup" => some do
    match items with
    | first :: rest => pure (.change (.list (← f.dedup first rest)))
    | [] => pure (.change (.list []))
  | "drain" => some do
    let (yes, no) ← f.partition placed
    pure ⟨.list yes, some (.list no)⟩
  | "retain" => some do
    let (yes, no) ← f.partition placed
    pure ⟨.list no, some (.list yes)⟩
  | "sort" | "sort_by" => some do pure (.change (.list (← f.sort [] items)))
  | "order" | "order_by" => give do pure (.list (← f.sort [] items))
  | _ => none

/-- A function of a list from a place on and a closure. -/
def listFrom? (name : String) (items : List Value) (f : Callback σ) (n : Int) :
    Option (Run σ Reply) :=
  let placed := items.zipIdx.drop (stretch items.length n 0).1
  let give (run : Run σ Value) : Option (Run σ Reply) := some do pure (.just (← run))
  match name with
  | "find" => give do pure (((← placed.findM? f.isTrueOn).map Prod.fst).getD .unit)
  | "find_map" => give (f.firstResult placed)
  | "index_of" => give do
    let found ← placed.findM? f.isTrueOn
    pure (.int ((found.map fun item => Int.ofNat item.2).getD (-1)))
  | _ => none

/-- A function of a record and a closure, which gets the key and the value of each member. -/
def record? (name : String) (members : List (String × Value)) (f : Callback σ) :
    Option (Run σ Reply) :=
  match name with
  | "each" | "forEach" => some do
    members.forM fun (key, value) =>
      discard (f.on (.record [("key", .str key), ("value", value)]))
    pure (.just .unit)
  | "filter" => some do pure (.just (.record (← chosen true)))
  | "drain" => some do
    let taken ← chosen true
    pure ⟨.record taken, some (.record (members.filter fun (key, _) => !taken.contains key))⟩
  | "retain" => some do
    let dropped ← chosen false
    pure ⟨.record dropped, some (.record (members.filter fun (key, _) => !dropped.contains key))⟩
  | _ => none
where
  /-- The members for which the closure says true, or does not. -/
  chosen (wanted : Bool) : Run σ (Table Value) :=
    members.filterM fun member => do
      match ← f.withKey member with
      | .bool value => pure (value == wanted)
      | _ => pure !wanted

/-- Runs a test. A failure is reported and goes no further, unless it ends the script. -/
def test (name : String) (f : Callback σ) : Run σ Reply := fun state =>
  match f.call none [] state with
  | .ok _ after => (do Run.report ⟨name, none⟩; pure (.just .unit) : Run σ Reply) after
  | .error (.failure failure) after =>
    if failure.fault.isFatal then .error (.failure failure) after
    else
      (do Run.report ⟨name, some failure.fault.message⟩; pure (.just .unit) : Run σ Reply) after
  | .error signal after => .error signal after

/-- A function of a closure and of other values. `prepare` makes a value ready to be called, if it is
a closure. -/
def call? (prepare : Value → Option (Callback σ)) (name : String) (args : List Value) :
    Option (Run σ Reply) :=
  match args with
  | [.list items, value] => (prepare value).bind (list? name items)
  | [.record members, value] => (prepare value).bind (record? name members)
  | [.list items, value, start] =>
    (prepare value).bind fun f =>
      match name, start with
      | "reduce", start => some do pure (.just (← f.reduce start items.zipIdx))
      | "reduce_rev", start => some do pure (.just (← f.reduce start items.zipIdx.reverse))
      | name, .int n => listFrom? name items f n
      | _, _ => none
  | [.str title, value] => if name == "test" then (prepare value).map (test title) else none
  | [.host .probe, .str title, value] =>
    if name == "test" then (prepare value).map (test title) else none
  | _ => none

end Callback
end ApiProbe.Machine
