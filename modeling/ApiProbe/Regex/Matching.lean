import ApiProbe.Regex.Program

/-!
Matching. All ways to match are followed side by side, one character at a time, in order of
preference; no two of them stand at the same instruction. Places in a text are counted in
characters.
-/
namespace ApiProbe.Regex

/-- A place in a text: how many characters lie before it, and its two neighbours. -/
structure Place where
  index : Nat
  before : Option Char
  after : Option Char

/-- Places recorded by the groups, start and end of each. -/
abbrev Slots := Array (Option Nat)

/-- One way to match: where it stands in the program, and what it has recorded. -/
structure Thread where
  at_ : Nat
  slots : Slots

/-- The ways to match at a place, the preferred ones last, and the instructions they passed. -/
structure Front where
  passed : Array Bool
  threads : List Thread

def Front.empty (size : Nat) : Front := ⟨Array.replicate size false, []⟩

/-- Follows threads through the instructions that take no character. Each instruction is passed
once, so the fuel is enough. -/
def explore (program : Array Inst) (place : Place) : Nat → List Thread → Front → Front
  | 0, _, front => front
  | _ + 1, [], front => front
  | fuel + 1, thread :: waiting, front =>
    if front.passed[thread.at_]? != some false then explore program place fuel waiting front
    else
      let marked := { front with passed := front.passed.set! thread.at_ true }
      match program[thread.at_]? with
      | some (.jump target) =>
        explore program place fuel ({ thread with at_ := target } :: waiting) marked
      | some (.split first second) =>
        explore program place fuel
          ({ thread with at_ := first } :: { thread with at_ := second } :: waiting) marked
      | some (.save slot) =>
        let slots := thread.slots.setIfInBounds slot (some place.index)
        explore program place fuel (⟨thread.at_ + 1, slots⟩ :: waiting) marked
      | some (.look look) =>
        let next := if look.holds place.before place.after then
          { thread with at_ := thread.at_ + 1 } :: waiting else waiting
        explore program place fuel next marked
      | some .fail | none => explore program place fuel waiting marked
      | some (.one _) | some .done =>
        explore program place fuel waiting { marked with threads := thread :: marked.threads }

def enter (program : Array Inst) (place : Place) (thread : Thread) (front : Front) : Front :=
  explore program place (2 * program.size + 2) [thread] front

/-- Moves threads over a character, the preferred ones first. A thread that is done ends the
matter: those behind it are dropped. The second result is what it recorded. -/
def advance (program : Array Inst) (next : Place) (c : Char) :
    List Thread → Front → Front × Option Slots
  | [], front => (front, none)
  | thread :: rest, front =>
    match program[thread.at_]? with
    | some (.one set) =>
      let moved := if set.holds c then
        enter program next { thread with at_ := thread.at_ + 1 } front else front
      advance program next c rest moved
    | some .done => (front, some thread.slots)
    | _ => advance program next c rest front

/-- The first thread that is done. -/
def finished? (program : Array Inst) (threads : List Thread) : Option Slots :=
  threads.findSome? fun thread =>
    match program[thread.at_]? with
    | some .done => some thread.slots
    | _ => none

/-- Follows all threads to the end of a text. As long as nothing has matched, a new thread starts at
every place. -/
def run (regex : Regex) (index : Nat) (before : Option Char) (front : Front)
    (best : Option Slots) : List Char → Option Slots
  | [] =>
    let here : Place := ⟨index, before, none⟩
    let entered := if best.isSome then front else enter regex.program here (fresh regex) front
    (finished? regex.program entered.threads.reverse).orElse fun _ => best
  | c :: rest =>
    let here : Place := ⟨index, before, some c⟩
    let next : Place := ⟨index + 1, some c, rest.head?⟩
    let entered := if best.isSome then front else enter regex.program here (fresh regex) front
    if entered.threads.isEmpty && best.isSome then best
    else
      let (moved, found) := advance regex.program next c entered.threads.reverse
        (Front.empty regex.program.size)
      run regex (index + 1) (some c) moved (found.orElse fun _ => best) rest
where
  fresh (regex : Regex) : Thread := ⟨0, Array.replicate (2 * regex.groups) none⟩

/-- Start and end of each group that took part in a match. -/
abbrev Captures := List (Option (Nat × Nat))

def capturesOf (slots : Slots) : Captures :=
  (List.range (slots.size / 2)).map fun group =>
    match slots[2 * group]?, slots[2 * group + 1]? with
    | some (some first), some (some last) => some (first, last)
    | _, _ => none

/-- The first match that starts at or behind a place. -/
def capturesFrom (regex : Regex) (text : List Char) (start : Nat) : Option Captures :=
  let before := if start == 0 then none else text[start - 1]?
  (run regex start before (Front.empty regex.program.size) none (text.drop start)).map capturesOf

def captures? (regex : Regex) (text : List Char) : Option Captures := capturesFrom regex text 0

def matches_ (regex : Regex) (text : String) : Bool := (captures? regex text.toList).isSome

/-- Start and end of the whole match. -/
def Captures.whole (captures : Captures) : Nat × Nat := (captures.head?.bind id).getD (0, 0)

/-- All matches from left to right that do not overlap. An empty match directly behind another one
does not count. -/
def allFrom (regex : Regex) (text : List Char) :
    Nat → Nat → Option Nat → List Captures
  | 0, _, _ => []
  | fuel + 1, start, last =>
    if start > text.length then []
    else
      match capturesFrom regex text start with
      | none => []
      | some found =>
        let (first, stop) := found.whole
        if first == stop && last == some stop then
          if start + 1 > text.length then []
          else
            match capturesFrom regex text (start + 1) with
            | none => []
            | some later => later :: allFrom regex text fuel later.whole.2 (some later.whole.2)
        else found :: allFrom regex text fuel stop (some stop)

def all (regex : Regex) (text : List Char) : List Captures :=
  allFrom regex text (2 * text.length + 2) 0 none

/-- The text between two places. -/
def between (text : List Char) (span : Nat × Nat) : List Char :=
  (text.drop span.1).take (span.2 - span.1)

/-- The text of a group, if it took part. -/
def Captures.text? (captures : Captures) (text : List Char) (group : Nat) : Option String :=
  (captures[group]?.bind id).map fun span => String.ofList (between text span)

end ApiProbe.Regex
