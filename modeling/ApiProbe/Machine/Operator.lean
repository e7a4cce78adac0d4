import ApiProbe.Machine.Fault

/-!
Operators on values. Integers have 64 bits, and what does not fit is a fault. An integer and a
floating-point number meet as floating-point numbers. Values of different kinds can be compared, and
are never equal.
-/
namespace ApiProbe.Machine

/-- The result of an operator or a function: a value or a fault. -/
abbrev Result := Except Fault Value

/-- The floating-point number nearest to an integer. -/
def floatOfInt (n : Int) : Float :=
  let size := Decimal.nearest n.natAbs 0
  if n < 0 then -size else size

namespace Integer

/-- An integer of 64 bits, or a fault that names the operation. -/
def checked (reason sign : String) (a b n : Int) : Result :=
  if Decimal.fits64 n then .ok (.int n) else .error (.arithmetic s!"{reason}: {a} {sign} {b}")

/-- A quotient is an integer if the division leaves nothing. -/
def divide (a b : Int) : Value :=
  if b != 0 && Decimal.fits64 (Int.tdiv a b) && Int.tmod a b == 0 then .int (Int.tdiv a b)
  else .float (floatOfInt a / floatOfInt b)

/-- The whole part of a quotient. -/
def quotient (a b : Int) : Result :=
  if b == 0 then .error (.arithmetic s!"Division by zero: {a} / {b}")
  else checked "Division overflow" "/" a b (Int.tdiv a b)

def modulo (a b : Int) : Result :=
  if b == 0 then .error (.arithmetic s!"Modulo division by zero: {a} % {b}")
  else if Decimal.fits64 (Int.tdiv a b) then .ok (.int (Int.tmod a b))
  else .error (.arithmetic s!"Modulo division overflow: {a} % {b}")

/-- Integers whose powers never leave the range. -/
def tamePower (a b : Int) : Option Int :=
  if a == 1 || b == 0 then some 1
  else if a == 0 then some 0
  else if a == -1 then some (if b % 2 == 0 then 1 else -1)
  else none

def power (a b : Int) : Result :=
  if b < 0 then .error (.arithmetic s!"Integer raised to a negative power: {a} ** {b}")
  else if b > 4294967295 then .error (.arithmetic s!"Exponential overflow: {a} ** {b}")
  else
    match tamePower a b with
    | some n => .ok (.int n)
    | none =>
      if b ≥ 64 then .error (.arithmetic s!"Exponential overflow: {a} ** {b}")
      else checked "Exponential overflow" "**" a b (Int.pow a b.toNat)

/-- Moves the bits to the left, or to the right by a negative amount. -/
def shift (a by_ : Int) : Int :=
  if by_ ≥ 0 then
    if by_ ≥ 64 then 0 else (BitVec.ofInt 64 (a * Nat.pow 2 by_.toNat)).toInt
  else if by_ ≤ -64 then (if a < 0 then -1 else 0)
  else Int.fdiv a (Nat.pow 2 (-by_).toNat)

/-- Combines the 64 bits of two integers. -/
def bitwise (f : BitVec 64 → BitVec 64 → BitVec 64) (a b : Int) : Value :=
  .int (f (BitVec.ofInt 64 a) (BitVec.ofInt 64 b)).toInt

end Integer

/-- Meaning of the signs of comparison. -/
def comparison? : String → Option (Ordering → Bool)
  | "==" => some fun order => order == .eq
  | "!=" => some fun order => order != .eq
  | "<" => some fun order => order == .lt
  | "<=" => some fun order => order != .gt
  | ">" => some fun order => order == .gt
  | ">=" => some fun order => order != .lt
  | _ => none

/-- Compares where there may be no order; then the values are just different. -/
def compared (sign : String) (order : Option Ordering) : Option Value :=
  match order with
  | some order => (comparison? sign).map fun test => .bool (test order)
  | none => (comparison? sign).map fun _ => .bool (sign == "!=")

def integerOperator? (sign : String) (a b : Int) : Option Result :=
  match sign with
  | "+" => some (Integer.checked "Addition overflow" sign a b (a + b))
  | "-" => some (Integer.checked "Subtraction overflow" sign a b (a - b))
  | "*" => some (Integer.checked "Multiplication overflow" sign a b (a * b))
  | "/" => some (.ok (Integer.divide a b))
  | "%" => some (Integer.modulo a b)
  | "**" => some (Integer.power a b)
  | "<<" => some (.ok (.int (Integer.shift a b)))
  | ">>" => some (.ok (.int (Integer.shift a (-b))))
  | "&" => some (.ok (Integer.bitwise (· &&& ·) a b))
  | "|" => some (.ok (Integer.bitwise (· ||| ·) a b))
  | "^" => some (.ok (Integer.bitwise (· ^^^ ·) a b))
  | ".." => some (.ok (.range a b false))
  | "..=" => some (.ok (.range a b true))
  | _ => (compared sign (some (compare a b))).map .ok

def floatOperator? (sign : String) (a b : Float) : Option Result :=
  match sign with
  | "+" => some (.ok (.float (a + b)))
  | "-" => some (.ok (.float (a - b)))
  | "*" => some (.ok (.float (a * b)))
  | "/" => some (.ok (.float (a / b)))
  | "%" => some (.ok (.float (Decimal.remainder a b)))
  | "**" => some (.ok (.float (a.pow b)))
  | _ => (compared sign ((Exact.ofFloat a).compare? (Exact.ofFloat b))).map .ok

/-- A power with a natural exponent, by repeated squaring from the lowest bit on. -/
def squaringPower (base result : Float) (exponent : Nat) : Float :=
  if exponent = 0 then result
  else
    let next := if exponent % 2 = 1 then result * base else result
    squaringPower (base * base) next (exponent / 2)
termination_by exponent

/-- A floating-point number to the power of an integer. -/
def integerPower (x : Float) (n : Int) : Result :=
  if n > 2147483647 then
    .error (.arithmetic s!"Number raised to too large an index: {Decimal.plain x} ** {n}")
  else
    let power := squaringPower x 1.0 n.natAbs
    .ok (.float (if n < 0 then 1.0 / power else power))

def boolOperator? (sign : String) (a b : Bool) : Option Result :=
  match sign with
  | "&" => some (.ok (.bool (a && b)))
  | "|" => some (.ok (.bool (a || b)))
  | "^" => some (.ok (.bool (a != b)))
  | _ => (compared sign (some (compare a.toNat b.toNat))).map .ok

/-- Leaves out every occurrence of a text. -/
def without (text part : String) : String := if part.isEmpty then text else text.replace part ""

/-- Texts and characters; a difference needs a text on the left. -/
def textOperator? (sign : String) (whole : Bool) (a b : String) : Option Result :=
  match sign with
  | "+" => some (.ok (.str (a ++ b)))
  | "-" => if whole then some (.ok (.str (without a b))) else none
  | _ => (compared sign (some (compare a b))).map .ok

mutual

/-- Equality of values. Closures and objects cannot be compared with their like. -/
def equal : Value → Value → Except Fault Bool
  | .unit, .unit => .ok true
  | .bool a, .bool b => .ok (a == b)
  | .int a, .int b => .ok (a == b)
  | .float a, .float b => .ok (a == b)
  | .int a, .float b => .ok (floatOfInt a == b)
  | .float a, .int b => .ok (a == floatOfInt b)
  | .char a, .char b => .ok (a == b)
  | .str a, .str b => .ok (a == b)
  | .char a, .str b => .ok (String.singleton a == b)
  | .str a, .char b => .ok (a == String.singleton b)
  | .list a, .list b => if a.length == b.length then equalItems a b else .ok false
  | .record a, .record b => if a.length == b.length then equalMembers a b else .ok false
  | .range a b c, .range d e f => .ok (a == d && b == e && c == f)
  | .closure f a, .closure g b => .error (.functionNotFound "==" [.closure f a, .closure g b])
  | .host a, .host b =>
    if a.kindName == b.kindName then .error (.functionNotFound "==" [.host a, .host b]) else .ok false
  | _, _ => .ok false

def equalItems : List Value → List Value → Except Fault Bool
  | a :: restA, b :: restB =>
    match equal a b with
    | .ok true => equalItems restA restB
    | other => other
  | _, _ => .ok true

def equalMembers : List (String × Value) → List (String × Value) → Except Fault Bool
  | (ka, a) :: restA, (kb, b) :: restB =>
    if ka == kb then
      match equal a b with
      | .ok true => equalMembers restA restB
      | other => other
    else .ok false
  | _, _ => .ok true

end

/-- Equality and difference of lists and records; they have no order. -/
def equality? (sign : String) (a b : Value) : Option Result :=
  match sign with
  | "==" => some ((equal a b).map .bool)
  | "!=" => some ((equal a b).map fun same => .bool (!same))
  | _ => none

/-- Whether two values are of one kind, so that they have no order unless an operator gives one. -/
def sameKind : Value → Value → Bool
  | .unit, .unit | .list _, .list _ | .record _, .record _ | .closure .., .closure .. => true
  | .range _ _ a, .range _ _ b => a == b
  | .host a, .host b => a.kindName == b.kindName
  | _, _ => false

/-- An operator between two values, if it knows such values. -/
def operator? (sign : String) (left right : Value) : Option Result :=
  match left, right with
  | .int a, .int b => integerOperator? sign a b
  | .float a, .float b => floatOperator? sign a b
  | .int a, .float b => floatOperator? sign (floatOfInt a) b
  | .float a, .int b =>
    if sign == "**" then some (integerPower a b) else floatOperator? sign a (floatOfInt b)
  | .bool a, .bool b => boolOperator? sign a b
  | .unit, .unit => (comparison? sign).map fun _ => .ok (.bool (sign == "=="))
  | _, _ =>
    match left.text?, right.text? with
    | some a, some b =>
      let whole :=
        match left with
        | .str _ => true
        | _ => false
      textOperator? sign whole a b
    | one, other =>
      if sign == "+" && (one.isSome || other.isSome) then
        match left, right with
        | .str a, _ => some (.ok (.str (a ++ right.display)))
        | _, .str b => some (.ok (.str (left.display ++ b)))
        | _, _ => none
      else if sameKind left right then
        match sign, left, right with
        | "+", .list a, .list b => some (.ok (.list (a ++ b)))
        | "+", .record a, .record b => some (.ok (.record (Table.union a b)))
        | _, .closure .., _ | _, .host _, _ => none
        | _, _, _ => equality? sign left right
      else (compared sign none).map .ok

/-- An operator in front of a value, if it knows such a value. -/
def prefixed? (sign : String) (operand : Value) : Option Result :=
  match sign, operand with
  | "-", .int n =>
    some (if Decimal.fits64 (-n) then .ok (.int (-n))
      else .error (.arithmetic s!"Negation overflow: -{n}"))
  | "-", .float x => some (.ok (.float (-x)))
  | "+", .int n => some (.ok (.int n))
  | "+", .float x => some (.ok (.float x))
  | "!", .bool value => some (.ok (.bool (!value)))
  | _, _ => none

end ApiProbe.Machine
