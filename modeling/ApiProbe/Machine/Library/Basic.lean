import ApiProbe.Machine.Operator

/-!
What a library function gives back: its value, and its first argument as it is after the call. A
method thus may change the variable that it is called on.
-/
namespace ApiProbe.Machine

structure Reply where
  value : Value
  /-- The first argument, if the call changed it. -/
  changed : Option Value

namespace Reply

def just (value : Value) : Reply := ⟨value, none⟩

/-- Changes the first argument and gives nothing back. -/
def change (receiver : Value) : Reply := ⟨.unit, some receiver⟩

end Reply

/-- What comes of a function that knows its arguments. -/
abbrev Answer := Option (Except Fault Reply)

namespace Answer

def value (value : Value) : Answer := some (.ok (.just value))

def change (receiver : Value) : Answer := some (.ok (.change receiver))

/-- Gives a value back and changes the first argument. -/
def both (value receiver : Value) : Answer := some (.ok ⟨value, some receiver⟩)

def fail (fault : Fault) : Answer := some (.error fault)

def ofResult (result : Result) : Answer := some (result.map Reply.just)

end Answer

/-- The place that an index means in a list of a size: negative ones count from the end. -/
def indexIn? (size : Nat) (index : Int) : Option Nat :=
  let place := if index < 0 then index + size else index
  if 0 ≤ place && place < size then some place.toNat else none

/-- A stretch of a list: where it starts, brought into the list, and how many items it has. -/
def stretch (size : Nat) (start length : Int) : Nat × Nat :=
  let first := if start < 0 then max (start + size) 0 else min start size
  (first.toNat, min (max length 0).toNat (size - first.toNat))

/-- The stretch that a range means. -/
def rangeStretch (size : Nat) (first last : Int) (closed : Bool) : Nat × Nat :=
  let start := max first 0
  let stop := max last start
  stretch size start (stop - start + (if closed then 1 else 0))

end ApiProbe.Machine
