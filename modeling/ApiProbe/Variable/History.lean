import ApiProbe.Variable.Scope
import ApiProbe.Table
import ApiProbe.Calendar

/-!
The history of variables: what each change replaced, with what, where and by whom. Every variable
has a trail of its own that keeps its latest changes up to a limit; numbers run through all trails.
-/
namespace ApiProbe

/-- Who made a change. -/
inductive ChangeSource
  | manual | script | extraction | rule | import_
  deriving Repr, DecidableEq, Inhabited

namespace ChangeSource

def name : ChangeSource → String
  | .manual => "manual"
  | .script => "script"
  | .extraction => "extraction"
  | .rule => "rule"
  | .import_ => "import"

def all : List ChangeSource := [.manual, .script, .extraction, .rule, .import_]

end ChangeSource

structure Change where
  sequence : Nat
  variable_ : String
  old : Option String
  new : Option String
  scope : Scope
  source : ChangeSource
  time : Instant
  deriving Repr, DecidableEq

/-- Trails list the newest change first. `now` is the time given to the next change. -/
structure History where
  limit : Nat
  last : Nat
  trails : Table (List Change)
  now : Instant

namespace History

/-- A history without changes; at least one change per variable is kept. -/
def empty (limit : Nat) (now : Instant) : History := ⟨max limit 1, 0, [], now⟩

def trail (history : History) (name : String) : List Change :=
  (history.trails.find? name).getD []

/-- Adds a change and forgets the oldest ones past the limit. -/
def record (history : History) (name : String) (old new : Option String) (scope : Scope)
    (source : ChangeSource) : History :=
  let change : Change := ⟨history.last + 1, name, old, new, scope, source, history.now⟩
  { history with
    last := history.last + 1
    trails := history.trails.insert name ((change :: history.trail name).take history.limit) }

/-- A change goes on top of the trail of its own variable, and no other trail changes. -/
theorem trail_record (history : History) (name key : String) (old new : Option String)
    (scope : Scope) (source : ChangeSource) :
    (history.record name old new scope source).trail key =
      if key = name then
        (⟨history.last + 1, name, old, new, scope, source, history.now⟩ ::
          history.trail key).take history.limit
      else history.trail key := by
  split
  · rename_i same
    subst same
    simp only [record, trail, Table.find?_insert_self, Option.getD_some]
  · rename_i different
    simp only [record, trail, Table.find?_insert_of_ne _ _ different]

def truncate {α : Type} (items : List α) : Option Nat → List α
  | some n => items.take n
  | none => items

def newerFirst (a b : Change) : Bool := b.sequence ≤ a.sequence

/-- All kept changes, newest first. -/
def everything (history : History) : List Change :=
  history.trails.values.flatten.mergeSort newerFirst

theorem mem_everything (history : History) (change : Change) :
    change ∈ history.everything ↔ ∃ trail ∈ history.trails.values, change ∈ trail := by
  rw [everything, List.mem_mergeSort, List.mem_flatten]

/-- Changes of one variable or of all, newest first, at most as many as asked for. -/
def entries (history : History) (name : Option String) (limit : Option Nat) : List Change :=
  match name with
  | some name => truncate (history.trail name) limit
  | none => truncate history.everything limit

/-- Forgets the changes of one variable or of all; numbers go on. -/
def clear (history : History) : Option String → History
  | some name => { history with trails := history.trails.erase name }
  | none => { history with trails := [] }

def size (history : History) : Nat :=
  history.trails.values.foldl (fun size trail => size + trail.length) 0

def tracked (history : History) : List String := history.trails.keys

def inScope (scope : Scope) (changes : List Change) : List Change :=
  changes.filter fun change => change.scope == scope

def bySource (source : ChangeSource) (changes : List Change) : List Change :=
  changes.filter fun change => change.source == source

end History
end ApiProbe
