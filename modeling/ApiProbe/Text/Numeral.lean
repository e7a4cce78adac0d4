import ApiProbe.Text.Blank
import ApiProbe.Decimal.Reading

/-!
Numbers at the start of a text, with anything behind them.
-/
namespace ApiProbe.Text

/-- Value of a digit to a base up to 36; letters of either case follow the ten digits. -/
def digitOf? (base : Nat) (c : Char) : Option Nat :=
  let value? :=
    if c.isDigit then some (c.toNat - 48)
    else if c.isLower then some (c.toNat - 87)
    else if c.isUpper then some (c.toNat - 55)
    else none
  value?.filter (· < base)

/-- Value of the digits at the start of a text, added to what was read before. -/
def absorbDigits (base value : Nat) : List Char → Nat
  | [] => value
  | c :: rest =>
    match digitOf? base c with
    | some digit => absorbDigits base (value * base + digit) rest
    | none => value

/-- Bases beyond those of digits and letters stand for ten. -/
def usableBase (base : Int) : Nat := if 2 ≤ base && base ≤ 36 then base.toNat else 10

/-- The integer at the start of a text, behind blanks and a sign. Its size has to be one of 64
bits. -/
def leadingInteger? (base : Int) (text : String) : Option Int :=
  let (negative, digits) := Decimal.signOf (trimLeft text.toList)
  let base := usableBase base
  if (digits.head?.bind (digitOf? base)).isNone then none
  else
    let size := Int.ofNat (absorbDigits base 0 digits)
    if size ≤ Decimal.int64Max then some (if negative then -size else size) else none

/-- Why a text is no integer. -/
inductive IntegerFault
  | empty
  | badDigit
  | tooLarge
  | tooSmall
  deriving Repr, DecidableEq

def IntegerFault.message : IntegerFault → String
  | .empty => "cannot parse integer from empty string"
  | .badDigit => "invalid digit found in string"
  | .tooLarge => "number too large to fit in target type"
  | .tooSmall => "number too small to fit in target type"

/-- Takes up digits until one is none, or the size is beyond a limit. -/
def boundedDigits (base limit : Nat) (beyond : IntegerFault) (value : Nat) :
    List Char → Except IntegerFault Nat
  | [] => .ok value
  | c :: rest =>
    match digitOf? base c with
    | none => .error .badDigit
    | some digit =>
      if value * base + digit ≤ limit then
        boundedDigits base limit beyond (value * base + digit) rest
      else .error beyond

/-- The integer of 64 bits that a whole text is. -/
def wholeInteger (base : Nat) (chars : List Char) : Except IntegerFault Int :=
  let (negative, digits) := Decimal.signOf chars
  if chars.isEmpty then .error .empty
  else if digits.isEmpty then .error .badDigit
  else if negative then
    (boundedDigits base (Nat.pow 2 63) .tooSmall 0 digits).map fun size => -(Int.ofNat size)
  else (boundedDigits base (Nat.pow 2 63 - 1) .tooLarge 0 digits).map Int.ofNat

/-- The longest number at the start of a text, behind blanks. -/
def leadingFloat? (text : String) : Option Float :=
  let chars := trimChars text.toList
  (List.range chars.length).reverse.findSome? fun last => Decimal.readFloat? (chars.take (last + 1))

end ApiProbe.Text
