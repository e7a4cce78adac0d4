import ApiProbe.Abort
import ApiProbe.JsonPath.Basic
import ApiProbe.Json.Printer
import ApiProbe.Decimal.Reading

/-!
What a path finds in a document. Every segment takes the values found so far, in order, to the
values that it selects from each of them.
-/
namespace ApiProbe

/-- The items of a list or the values of the members of an object, in order. -/
def Json.children : Json → List Json
  | .arr items => items
  | .obj members => members.map Prod.snd
  | _ => []

mutual

/-- A value and all values below it, each before those below it. -/
def Json.subtree : Json → List Json
  | .arr items => .arr items :: Json.itemSubtrees items
  | .obj members => .obj members :: Json.memberSubtrees members
  | leaf => [leaf]

def Json.itemSubtrees : List Json → List Json
  | [] => []
  | item :: rest => Json.subtree item ++ Json.itemSubtrees rest

def Json.memberSubtrees : List (String × Json) → List Json
  | [] => []
  | (_, value) :: rest => Json.subtree value ++ Json.memberSubtrees rest

end

/-- The stored form of a value: the text of a string, JSON text of everything else. -/
def Json.display : Json → String
  | .str text => text
  | other => other.compact

namespace JsonPath

namespace Relation

/-- Whether a relation holds, given the order of the two sides; sides without an order are merely
different. -/
def holds (relation : Relation) : Option Ordering → Bool
  | none => relation == .ne
  | some order =>
    match relation with
    | .eq => order == .eq
    | .ne => order != .eq
    | .lt => order == .lt
    | .le => order != .gt
    | .gt => order == .gt
    | .ge => order != .lt

/-- Numbers compare as floating-point numbers and strings by their characters; values of all other
kinds are only equal or different. -/
def test (relation : Relation) (left right : Json) : Bool :=
  match number? left, number? right with
  | some a, some b => relation.holds (a.compare? b)
  | _, _ =>
    match left, right with
    | .str a, .str b => relation.holds (some (compare a b))
    | _, _ =>
      match relation with
      | .eq => left.same right
      | .ne => !left.same right
      | _ => false
where
  number? : Json → Option Exact
    | .int n => some (Exact.ofInt n)
    | .float x => some (Exact.ofFloat x)
    | _ => none

end Relation

/-- The item at a position, counted from the end below zero. -/
def itemAt (items : List Json) (position : Int) : Option Json :=
  let place := if position < 0 then Int.ofNat items.length + position else position
  if 0 ≤ place then items[place.toNat]? else none

def Pick.select (pick : Pick) (node : Json) : List Json :=
  match pick with
  | .name key => (node.member? key).toList
  | .every => node.children
  | .index position =>
    match node with
    | .arr items => (itemAt items position).toList
    | _ => []

namespace Slice

/-- Positions from `place` up to but not including `stop`. At most `fuel` of them exist. -/
def upward (stop step : Int) : Nat → Int → Except Abort (List Nat)
  | 0, _ => .ok []
  | fuel + 1, place =>
    if place < stop then
      if Decimal.fits64 (place + step) then
        (upward stop step fuel (place + step)).map (place.toNat :: ·)
      else .error .positionOverflow
    else .ok []

/-- Positions from `place` down to but not including `stop`. -/
def downward (stop step : Int) : Nat → Int → List Nat
  | 0, _ => []
  | fuel + 1, place =>
    if stop < place then place.toNat :: downward stop step fuel (place + step) else []

/-- The positions of a run in a list of `length` items. -/
def positions (run : Slice) (length : Nat) : Except Abort (List Nat) :=
  let size := Int.ofNat length
  if 0 < run.step then
    let bound := fun (n : Int) => if n < 0 then max (size + n) 0 else min n size
    upward ((run.stop.map bound).getD size) run.step length ((run.start.map bound).getD 0)
  else
    let bound := fun (n : Int) => if n < 0 then max (size + n) (-1) else min n (size - 1)
    .ok (downward ((run.stop.map bound).getD (-1)) run.step length
      ((run.start.map bound).getD (size - 1)))

def select (run : Slice) (node : Json) : Except Abort (List Json) :=
  match node with
  | .arr items => (run.positions items.length).map (List.filterMap (items[·]?))
  | _ => .ok []

end Slice

/-- Applies a selection to values in turn and puts what it gives in a row. -/
def gather (select : Json → Except Abort (List Json)) : List Json → Except Abort (List Json)
  | [] => .ok []
  | node :: rest => do
    let found ← select node
    let others ← gather select rest
    pure (found ++ others)

@[simp] theorem gather_singleton (select : Json → Except Abort (List Json)) (node : Json) :
    gather select [node] = select node := by
  simp only [gather]
  cases select node with
  | error abort => rfl
  | ok found => simp [bind, Except.bind, pure, Except.pure]

/-- The values that pass a test, in order. -/
def keep (passes : Json → Except Abort Bool) : List Json → Except Abort (List Json)
  | [] => .ok []
  | node :: rest => do
    let kept ← passes node
    let others ← keep passes rest
    pure (if kept then node :: others else others)

/-- Whether what the path of a filter found makes the filter pass. -/
def passes (test : Option (Relation × Json)) (found : List Json) : Bool :=
  match test, found with
  | _, [] => false
  | none, _ :: _ => true
  | some (relation, literal), first :: _ => relation.test first literal

mutual

def Selector.select : Selector → Json → Except Abort (List Json)
  | .pick one, node => .ok (one.select node)
  | .union picks, node => .ok (picks.flatMap (·.select node))
  | .slice run, node => run.select node
  | .filter path test, node =>
    keep (fun child => (follow path [child]).map (passes test)) node.children

def Segment.select : Segment → Json → Except Abort (List Json)
  | .child selector, node => selector.select node
  | .descendant selector, node => gather selector.select node.subtree

/-- Follows the segments one after the other. -/
def follow : List Segment → List Json → Except Abort (List Json)
  | [], nodes => .ok nodes
  | segment :: rest, nodes => do follow rest (← gather segment.select nodes)

end

/-- Every value that the path finds, in order. -/
def query (path : JsonPath) (document : Json) : Except Abort (List Json) := follow path [document]

/-- Many values become one list; a single value stands for itself. -/
def collapse : List Json → Option Json
  | [] => none
  | [value] => some value
  | values => some (.arr values)

/-- The values that the path finds, as at most one value. -/
def select (path : JsonPath) (document : Json) : Except Abort (Option Json) :=
  (path.query document).map collapse

end JsonPath
end ApiProbe
