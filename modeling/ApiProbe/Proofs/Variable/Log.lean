import ApiProbe.Variable.History
import Mathlib.Data.List.Induction
import Mathlib.Data.List.Nodup

/-!
Logs of a history: everything that was asked of it, with nothing ever taken away. A log numbers the
changes as they come and notes where names were cleared, so it tells which changes of a name are left
since then.
-/
namespace ApiProbe

/-- What can be asked of a history. -/
inductive HistoryOperation
  | record (name : String) (old new : Option String) (scope : Scope) (source : ChangeSource)
  | clear (name : Option String)
  deriving Repr, DecidableEq

/-- An operation and the time at which the history gets it. -/
structure HistoryEvent where
  time : Instant
  operation : HistoryOperation
  deriving Repr, DecidableEq

namespace History

def perform (history : History) : HistoryOperation → History
  | .record name old new scope source => history.record name old new scope source
  | .clear name => history.clear name

def step (history : History) (event : HistoryEvent) : History :=
  { history with now := event.time }.perform event.operation

/-- The history after a sequence of events. -/
def after (history : History) (events : List HistoryEvent) : History := events.foldl step history

end History

/-- Numbers go down from the first change to the last. -/
def NewestFirst (changes : List Change) : Prop :=
  changes.Pairwise fun newer older => older.sequence < newer.sequence

namespace NewestFirst
variable {changes others : List Change}

theorem nodup_sequences (sorted : NewestFirst changes) : (changes.map Change.sequence).Nodup :=
  List.pairwise_map.mpr (sorted.imp fun less => Nat.ne_of_gt less)

theorem eq_of_sequence_eq (sorted : NewestFirst changes) {one other : Change}
    (first : one ∈ changes) (second : other ∈ changes) (same : one.sequence = other.sequence) :
    one = other :=
  List.inj_on_of_nodup_map sorted.nodup_sequences first second same

/-- Changes in order of their numbers are known by which they are. -/
theorem ext (sorted : NewestFirst changes) (tidy : NewestFirst others)
    (same : ∀ change, change ∈ changes ↔ change ∈ others) : changes = others := by
  have permuted : changes.Perm others :=
    (List.perm_ext_iff_of_nodup sorted.nodup_sequences.of_map tidy.nodup_sequences.of_map).mpr same
  refine permuted.eq_of_pairwise (fun newer older _ _ less more => ?_) sorted tidy
  exact absurd (Nat.lt_trans less more) (Nat.lt_irrefl _)

end NewestFirst

/-- A line of a log: a change, or the clearing of one name or of all. -/
inductive LogLine
  | recorded (change : Change)
  | cleared (name : Option String)

namespace LogLine

def change? : LogLine → Option Change
  | .recorded change => some change
  | .cleared _ => none

/-- The line ends what is kept of a name. -/
def clears (name : String) : LogLine → Bool
  | .recorded _ => false
  | .cleared none => true
  | .cleared (some other) => other == name

end LogLine

/-- The newest line comes first. -/
abbrev Log := List LogLine

namespace Log

/-- All changes that were ever recorded. -/
def changes (log : Log) : List Change := log.filterMap LogLine.change?

def write (log : Log) (event : HistoryEvent) : Log :=
  match event.operation with
  | .record name old new scope source =>
    .recorded ⟨log.changes.length + 1, name, old, new, scope, source, event.time⟩ :: log
  | .clear name => .cleared name :: log

/-- The log of a sequence of events. -/
def of (events : List HistoryEvent) : Log := events.foldl write []

/-- The changes of a name since it was last cleared, newest first. -/
def since (log : Log) (name : String) : List Change :=
  (changes (log.takeWhile fun line => !line.clears name)).filter fun change =>
    change.variable_ == name

/-- The changes that are left when of every name only so many are kept since it was last cleared. -/
def retained (log : Log) (cap : Nat) : List Change :=
  log.changes.filter fun change => ((log.since change.variable_).take cap).contains change

theorem changes_recorded (log : Log) (change : Change) :
    changes (.recorded change :: log) = change :: log.changes :=
  rfl

theorem since_recorded (log : Log) (change : Change) (name : String) :
    since (.recorded change :: log) name =
      if change.variable_ = name then change :: log.since name else log.since name := by
  simp only [since, changes, List.takeWhile_cons, LogLine.clears, Bool.not_false, ↓reduceIte,
    List.filterMap_cons, LogLine.change?, List.filter_cons, beq_iff_eq]

theorem since_cleared (log : Log) (cleared : Option String) (name : String) :
    since (.cleared cleared :: log) name =
      if LogLine.clears name (.cleared cleared) then [] else log.since name := by
  simp only [since, changes, List.takeWhile_cons]
  split
  · rename_i kept
    rw [if_neg (by simpa using kept)]
    rfl
  · rename_i gone
    rw [if_pos (by simpa using gone)]
    rfl

theorem changes_append (later earlier : Log) :
    changes (later ++ earlier) = later.changes ++ earlier.changes :=
  List.filterMap_append

/-- Since the last clearing there are the changes of the later lines, and those of the earlier ones
unless a later line ends them. -/
theorem since_append (later earlier : Log) (name : String) :
    since (later ++ earlier) name = later.since name ∨
      since (later ++ earlier) name = later.since name ++ earlier.since name := by
  induction later with
  | nil => exact .inr rfl
  | cons line rest ih =>
    rw [List.cons_append]
    cases line with
    | recorded change =>
      rw [since_recorded, since_recorded]
      split
      · rcases ih with alone | both
        · exact .inl (by rw [alone])
        · exact .inr (by rw [both, List.cons_append])
      · exact ih
    | cleared cleared =>
      rw [since_cleared, since_cleared]
      split
      · exact .inl rfl
      · exact ih

theorem since_sublist (log : Log) (name : String) : (log.since name).Sublist log.changes :=
  List.filter_sublist.trans ((List.takeWhile_sublist _).filterMap _)

theorem variable_of_mem_since {log : Log} {name : String} {change : Change}
    (member : change ∈ log.since name) : change.variable_ = name :=
  eq_of_beq (List.mem_filter.mp member).2

theorem of_concat (events : List HistoryEvent) (event : HistoryEvent) :
    of (events ++ [event]) = (of events).write event :=
  List.foldl_append

/-- A log only grows. -/
theorem exists_of_append (first second : List HistoryEvent) :
    ∃ lines, of (first ++ second) = lines ++ of first := by
  induction second using List.reverseRecOn with
  | nil => exact ⟨[], by rw [List.append_nil]; rfl⟩
  | append_singleton second event ih =>
    obtain ⟨lines, grown⟩ := ih
    rw [← List.append_assoc, of_concat, grown, write]
    split
    · exact ⟨_ :: lines, rfl⟩
    · exact ⟨_ :: lines, rfl⟩

theorem newestFirst_changes (events : List HistoryEvent) : NewestFirst (of events).changes := by
  -- No number is higher than there are changes, so the next one is higher than all of them.
  have numbered : NewestFirst (of events).changes ∧
      ∀ change ∈ (of events).changes, change.sequence ≤ (of events).changes.length := by
    induction events using List.reverseRecOn with
    | nil => exact ⟨.nil, fun change member => by cases member⟩
    | append_singleton events event ih =>
      obtain ⟨sorted, bounded⟩ := ih
      rw [of_concat, write]
      split
      · rw [changes_recorded]
        refine ⟨List.pairwise_cons.mpr ⟨fun older member => ?_, sorted⟩, fun change member => ?_⟩
        · exact Nat.lt_succ_of_le (bounded older member)
        · rw [List.length_cons]
          rcases List.mem_cons.mp member with same | older
          · exact Nat.le_of_eq (by rw [same])
          · exact Nat.le_succ_of_le (bounded change older)
      · exact ⟨sorted, bounded⟩
  exact numbered.1

end Log
end ApiProbe
