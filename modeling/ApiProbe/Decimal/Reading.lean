import ApiProbe.Decimal.Exact

/-!
Reading numbers from text. An integer is an optional sign and digits. A decimal is an optional
sign, digits with an optional fraction (or a fraction alone) and an optional exponent; the names of
infinity and not-a-number are accepted in any case.
-/
namespace ApiProbe.Decimal

def digitValue (c : Char) : Nat := c.toNat - '0'.toNat

/-- Value of decimal digits, added to the digits already read. -/
def ofDigits (start : Nat) (digits : List Char) : Nat :=
  digits.foldl (fun n c => n * 10 + digitValue c) start

def digitsOf (chars : List Char) : List Char × List Char :=
  (chars.takeWhile Char.isDigit, chars.dropWhile Char.isDigit)

/-- Splits a sign off; the flag is true after a minus. -/
def signOf : List Char → Bool × List Char
  | '-' :: rest => (true, rest)
  | '+' :: rest => (false, rest)
  | chars => (false, chars)

def int64Min : Int := -9223372036854775808
def int64Max : Int := 9223372036854775807

/-- True of the integers that fit into 64 bits with a sign. -/
def fits64 (n : Int) : Bool := int64Min ≤ n && n ≤ int64Max

/-- A signed integer of 64 bits, with nothing around it. -/
def readInt64? (chars : List Char) : Option Int :=
  let (negative, body) := signOf chars
  if body.isEmpty || !body.all Char.isDigit then none
  else
    let size := Int.ofNat (ofDigits 0 body)
    let n := if negative then -size else size
    if fits64 n then some n else none

/-- A number of digits, a plus sign allowed, that is at most `limit`. -/
def readNat? (limit : Nat) (chars : List Char) : Option Nat :=
  let body := if chars.head? == some '+' then chars.drop 1 else chars
  if body.isEmpty || !body.all Char.isDigit then none
  else
    let n := ofDigits 0 body
    if n ≤ limit then some n else none

/-- The floating-point number nearest to `mantissa · 10 ^ power`. Powers far outside the range are
settled by the number of digits alone. -/
def nearest (mantissa : Nat) (power : Int) : Float :=
  let top := power + Int.ofNat (Nat.toDigits 10 mantissa).length
  if mantissa == 0 || top < -400 then 0.0
  else if top > 400 then 1.0 / 0.0
  else if 0 ≤ power then Float.ofScientific mantissa false power.toNat
  else Float.ofScientific mantissa true (-power).toNat

/-- What a decimal says: digits, how many of them are behind the point, and the exponent. -/
structure Numeral where
  negative : Bool
  digits : List Char
  places : Nat
  exponent : Int

def Numeral.toFloat (n : Numeral) : Float :=
  let size := nearest (ofDigits 0 n.digits) (n.exponent - Int.ofNat n.places)
  if n.negative then -size else size

/-- The exponent part, if it is complete; otherwise nothing of it is taken. -/
def exponentOf (chars : List Char) : Option (Int × List Char) :=
  match chars with
  | e :: rest =>
    if e == 'e' || e == 'E' then
      let (negative, body) := signOf rest
      let (digits, after) := digitsOf body
      if digits.isEmpty then none
      else
        let size := Int.ofNat (ofDigits 0 digits)
        some (if negative then -size else size, after)
    else none
  | [] => none

/-- Digits with an optional fraction and an optional exponent; at least one digit in all. The rest
of the text comes back with it. -/
def numeralOf (chars : List Char) : Option (Numeral × List Char) :=
  let (negative, body) := signOf chars
  let (whole, afterWhole) := digitsOf body
  let (fraction, after) :=
    match afterWhole with
    | '.' :: rest => digitsOf rest
    | rest => ([], rest)
  if whole.isEmpty && fraction.isEmpty then none
  else
    match exponentOf after with
    | some (exponent, rest) => some (⟨negative, whole ++ fraction, fraction.length, exponent⟩, rest)
    | none => some (⟨negative, whole ++ fraction, fraction.length, 0⟩, after)

/-- Names of the values that have no digits, in lower case. -/
def named? (chars : List Char) : Option Float :=
  let (negative, body) := signOf chars
  let name := String.ofList (body.map Char.toLower)
  let sign := fun (x : Float) => if negative then -x else x
  if name == "inf" || name == "infinity" then some (sign (1.0 / 0.0))
  else if name == "nan" then some (sign (0.0 / 0.0))
  else none

/-- A decimal number with nothing around it. -/
def readFloat? (chars : List Char) : Option Float :=
  match numeralOf chars with
  | some (numeral, []) => some numeral.toFloat
  | _ => named? chars

end ApiProbe.Decimal
