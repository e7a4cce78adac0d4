import ApiProbe.Decimal.Shortest

/-!
Written forms of floating-point numbers, all built on the shortest decimal: plain positional
digits, scientific form, and the three house styles that choose between the two.
-/
namespace ApiProbe.Decimal

def zeros (n : Nat) : String := String.ofList (List.replicate n '0')

/-- Digits with a decimal point where it belongs and no exponent; a whole number has no point. -/
def positional (s : Scaled) : String :=
  let digits := toString s.digits
  if 0 ≤ s.power then digits ++ zeros s.power.toNat
  else
    let places := (-s.power).toNat
    if places < digits.length then
      let chars := digits.toList
      String.ofList (chars.take (digits.length - places)) ++ "."
        ++ String.ofList (chars.drop (digits.length - places))
    else "0." ++ zeros (places - digits.length) ++ digits

/-- One digit, a point if more follow, and the exponent; `plus` writes the sign of a positive
exponent. -/
def scientific (plus : Bool) (s : Scaled) : String :=
  let chars := (toString s.digits).toList
  let exponent := s.power + Int.ofNat chars.length - 1
  let lead := String.ofList (chars.take 1)
  let fraction := chars.drop 1
  let point := if fraction.isEmpty then "" else "." ++ String.ofList fraction
  let sign := if plus && 0 ≤ exponent then "+" else ""
  lead ++ point ++ "e" ++ sign ++ toString exponent

/-- Adds `.0` to a text of digits alone. -/
def withPoint (text : String) : String :=
  if text.toList.contains '.' then text else text ++ ".0"

/-- Number of digits before the decimal point; zero or less for a fraction. -/
def pointPosition (s : Scaled) : Int := s.power + Int.ofNat (length s.digits)

def signed (negative : Bool) (text : String) : String := if negative then "-" ++ text else text

/-- Number text of a JSON document: an exponent from `1e+16` up and below `0.00001`. Values that
are not finite have no such text. -/
def json? (x : Float) : Option String :=
  match Exact.ofFloat x with
  | .finite negative 0 _ => some (signed negative "0.0")
  | .finite negative mantissa exponent =>
    let s := shortest mantissa exponent
    let point := pointPosition s
    let text :=
      if -5 < point && point ≤ 16 then withPoint (positional s) else scientific true s
    some (signed negative text)
  | _ => none

/-- All digits of a number, without an exponent. -/
def plain (x : Float) : String :=
  match Exact.ofFloat x with
  | .nan => "NaN"
  | .infinite negative => signed negative "inf"
  | .finite negative 0 _ => signed negative "0"
  | .finite negative mantissa exponent => signed negative (positional (shortest mantissa exponent))

/-- Text of a number that is printed on its own: an exponent above `1e13` and below `1e-13`. -/
def display (x : Float) : String :=
  match Exact.ofFloat x with
  | .nan => "NaN"
  | .infinite negative => signed negative "inf"
  | .finite _ 0 _ => "0.0"
  | .finite negative mantissa exponent =>
    let s := shortest mantissa exponent
    let size := Float.abs x
    let text :=
      if size > 1e13 || size < 1e-13 then scientific false s else withPoint (positional s)
    signed negative text

/-- Text of a number inside a printed list: an exponent from `1e16` up and below `0.0001`. -/
def inspect (x : Float) : String :=
  match Exact.ofFloat x with
  | .nan => "NaN"
  | .infinite negative => signed negative "inf"
  | .finite negative 0 _ => signed negative "0.0"
  | .finite negative mantissa exponent =>
    let s := shortest mantissa exponent
    let size := Float.abs x
    let text :=
      if size ≥ 1e16 || size < 1e-4 then scientific false s else withPoint (positional s)
    signed negative text

end ApiProbe.Decimal
