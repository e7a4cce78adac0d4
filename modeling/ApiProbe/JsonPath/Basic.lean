import ApiProbe.Json.Value

/-!
Paths into JSON documents. A path is a list of segments; each takes the values found so far to some
of their children, or to some of the children of everything below them.
-/
namespace ApiProbe.JsonPath

/-- What selects children one by one: a member, every child, or an item counted from the start
(or, below zero, from the end). -/
inductive Pick
  | name (key : String)
  | every
  | index (position : Int)
  deriving Repr, DecidableEq

/-- A run of list positions. A bound below zero counts from the end, a missing one is the end of
the list where the run starts or stops; the step is never zero. -/
structure Slice where
  start : Option Int
  stop : Option Int
  step : Int
  deriving Repr, DecidableEq

/-- Relation of a value to the literal of a filter. -/
inductive Relation
  | eq | ne | lt | le | gt | ge
  deriving Repr, DecidableEq

mutual

inductive Selector
  | pick (one : Pick)
  | union (picks : List Pick)
  | slice (run : Slice)
  /-- Children in which a path finds something or, with a test, in which the first value that it
  finds stands in that relation to the literal. -/
  | filter (path : List Segment) (test : Option (Relation × Json))

inductive Segment
  | child (selector : Selector)
  | descendant (selector : Selector)

end

end ApiProbe.JsonPath

namespace ApiProbe

/-- A path from the root of a document. -/
abbrev JsonPath := List JsonPath.Segment

end ApiProbe
