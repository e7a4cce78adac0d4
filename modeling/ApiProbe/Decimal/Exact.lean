/-!
Floating-point numbers as exact values. A finite number is `± mantissa · 2 ^ exponent`; sums,
comparisons and remainders taken on this form round nowhere.
-/
namespace ApiProbe

inductive Exact
  | nan
  | infinite (negative : Bool)
  | finite (negative : Bool) (mantissa : Nat) (exponent : Int)
  deriving Repr, DecidableEq

namespace Exact

/-- Reads sign, exponent and fraction off the 64 bits of a number. -/
def ofFloat (x : Float) : Exact :=
  let bits := x.toBits.toNat
  let negative := bits / Nat.pow 2 63 % 2 == 1
  let scale := bits / Nat.pow 2 52 % 2048
  let fraction := bits % Nat.pow 2 52
  if scale == 2047 then
    if fraction == 0 then .infinite negative else .nan
  else if scale == 0 then .finite negative fraction (-1074)
  else .finite negative (Nat.pow 2 52 + fraction) (Int.ofNat scale - 1075)

/-- Halves a natural number `shift` times, to the nearest value, a tie to the even one. -/
def roundShift (n shift : Nat) : Nat :=
  let kept := n / Nat.pow 2 shift
  let twice := 2 * (n % Nat.pow 2 shift)
  if twice < Nat.pow 2 shift then kept
  else if twice > Nat.pow 2 shift then kept + 1
  else kept + kept % 2

/-- The floating-point number nearest to an integer: 53 significant bits are kept. -/
def ofInt (n : Int) : Exact :=
  let size := n.natAbs
  let shift := Nat.log2 size - 52
  .finite (n < 0) (roundShift size shift) shift

/-- Sign and size of a finite value, scaled by `2 ^ base` for a `base` no exponent falls below. -/
def scaled (base : Nat) (negative : Bool) (mantissa : Nat) (exponent : Int) : Int :=
  let size := Int.ofNat (mantissa * Nat.pow 2 (exponent + base).toNat)
  if negative then -size else size

/-- Order of two numbers; there is none when either is not a number. -/
def compare? : Exact → Exact → Option Ordering
  | .nan, _ | _, .nan => none
  | .infinite a, .infinite b => some (compare b.toNat a.toNat)
  | .infinite negative, .finite .. => some (if negative then .lt else .gt)
  | .finite .., .infinite negative => some (if negative then .gt else .lt)
  | .finite na ma ea, .finite nb mb eb =>
    let base := max (-ea).toNat (-eb).toNat
    some (compare (scaled base na ma ea) (scaled base nb mb eb))

def isNaN : Exact → Bool
  | .nan => true
  | _ => false

def isFinite : Exact → Bool
  | .finite .. => true
  | _ => false

def isZero : Exact → Bool
  | .finite _ mantissa _ => mantissa == 0
  | _ => false

/-- The value as an integer, when it has no fraction. -/
def toInt? : Exact → Option Int
  | .finite negative mantissa exponent =>
    let size :=
      if 0 ≤ exponent then some (mantissa * Nat.pow 2 exponent.toNat)
      else if mantissa % Nat.pow 2 (-exponent).toNat == 0 then
        some (mantissa / Nat.pow 2 (-exponent).toNat)
      else none
    size.map fun n => if negative then -(Int.ofNat n) else Int.ofNat n
  | _ => none

/-- The integer part, dropping the fraction. -/
def truncate? : Exact → Option Int
  | .finite negative mantissa exponent =>
    let size :=
      if 0 ≤ exponent then mantissa * Nat.pow 2 exponent.toNat
      else mantissa / Nat.pow 2 (-exponent).toNat
    some (if negative then -(Int.ofNat size) else Int.ofNat size)
  | _ => none

end Exact

namespace Decimal

/-- `mantissa · 2 ^ exponent` as a floating-point number, for values that are one. -/
def floatOf (negative : Bool) (mantissa : Nat) (exponent : Int) : Float :=
  let size := (Float.ofNat mantissa).scaleB exponent
  if negative then -size else size

/-- Remainder of a division that rounds toward zero; it has the sign of the dividend. -/
def remainder (x y : Float) : Float :=
  match Exact.ofFloat x, Exact.ofFloat y with
  | .finite negative mx ex, .finite _ my ey =>
    if my == 0 then 0.0 / 0.0
    else
      let base := max (-ex).toNat (-ey).toNat
      let a := mx * Nat.pow 2 (ex + base).toNat
      let b := my * Nat.pow 2 (ey + base).toNat
      floatOf negative (a % b) (-(Int.ofNat base))
  | .finite .., .infinite _ => x
  | _, _ => 0.0 / 0.0

end Decimal
end ApiProbe
