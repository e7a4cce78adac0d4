/-!
What breaks a run off for good, so that it has no result, not even an error.
-/
namespace ApiProbe

inductive Abort
  /-- A time was moved beyond the years of the calendar. -/
  | outOfCalendar
  /-- A list position was moved beyond the integers of 64 bits. -/
  | positionOverflow
  deriving Repr, DecidableEq

end ApiProbe
