import ApiProbe.Variable.Error
import ApiProbe.Decimal.Reading
import ApiProbe.Supply

/-!
Generated values: names that start with a dollar sign stand for a fresh identifier, the time, a date
or a random number. An offset moves a time; one that leaves the calendar has no value at all.
-/
namespace ApiProbe.Generated

/-- Why an expression gives no value. -/
inductive Trouble
  | refused (error : VariableError)
  | outOfCalendar
  deriving Repr, DecidableEq

/-- Splits at blanks; `word` is the part of the current word already read, in reverse. -/
def wordsFrom (word : List Char) : List Char → List (List Char)
  | [] => if word.isEmpty then [] else [word.reverse]
  | c :: rest =>
    if Text.isBlank c then
      if word.isEmpty then wordsFrom [] rest else word.reverse :: wordsFrom [] rest
    else wordsFrom (c :: word) rest

def words (text : String) : List String := (wordsFrom [] text.toList).map String.ofList

/-- Milliseconds in a unit of time. -/
def unitMillis? : String → Option Int
  | "ms" => some 1
  | "s" => some 1000
  | "m" => some 60000
  | "h" => some 3600000
  | "d" => some 86400000
  | "w" => some 604800000
  | _ => none

/-- The time moved by an amount of a unit. Plus signs in front of the amount mean nothing. -/
def shifted (now : Instant) : List String → Except Trouble Instant
  | amount :: unit :: _ =>
    match Decimal.readInt64? (amount.toList.dropWhile (· == '+')) with
    | none => .error (.refused (.badOffset (.notInteger amount)))
    | some n =>
      match unitMillis? unit with
      | none => .error (.refused (.badOffset (.unitUnknown unit)))
      | some millis =>
        match now.shift? (n * millis) with
        | some moved => .ok moved
        | none => .error .outOfCalendar
  | _ => .error (.refused (.badOffset .incomplete))

def timestamp (now : Instant) (args : List String) : Except Trouble String :=
  if args.isEmpty then .ok (toString now.seconds)
  else (shifted now args).map fun moved => toString moved.seconds

def datetime (now : Instant) : List String → Except Trouble String
  | [] => .error (.refused (.badSyntax .formatMissing))
  | format :: offset => do
    let moved ← if offset.isEmpty then pure now else shifted now offset
    match format with
    | "iso8601" => pure moved.iso
    | "rfc1123" => pure moved.headerForm
    | other => throw (.refused (.badSyntax (.formatUnknown other)))

/-- Reads the bounds of a random number; the first bad one is reported. -/
def bounds : List String → Except Trouble (List Int)
  | [] => .ok []
  | arg :: rest =>
    match Decimal.readInt64? arg.toList with
    | none => .error (.refused (.badSyntax (.notInteger arg)))
    | some n => (bounds rest).map (n :: ·)

def randomInt (supply : Supply) (args : List String) : Except Trouble (String × Supply) := do
  match ← bounds (args.take 2) with
  | [low, high] =>
    if low ≤ high then
      let (n, rest) := supply.between low high
      pure (toString n, rest)
    else throw (.refused (.badSyntax (.boundsReversed low high)))
  | _ => throw (.refused (.badSyntax .boundsMissing))

/-- The value of a name with arguments. -/
def value (supply : Supply) (name : String) (args : List String) :
    Except Trouble (String × Supply) :=
  match name with
  | "guid" | "randomUUID" => .ok supply.uuid
  | "timestamp" => (timestamp supply.now args).map fun text => (text, supply)
  | "isoTimestamp" => .ok (supply.now.iso, supply)
  | "datetime" => (datetime supply.now args).map fun text => (text, supply)
  | "randomInt" => randomInt supply args
  | _ => .error (.refused (.undefined ("$" ++ name)))

/-- The value of an expression: a dollar sign, a name, and arguments separated by blanks. -/
def evaluate (supply : Supply) (expression : String) : Except Trouble (String × Supply) :=
  let refusal := Except.error (.refused (.badSyntax (.notGenerated expression)))
  match words expression with
  | [] => refusal
  | head :: args =>
    match head.toList with
    | '$' :: name => if name.isEmpty then refusal else value supply (String.ofList name) args
    | _ => refusal

end ApiProbe.Generated
