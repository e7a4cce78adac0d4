import ApiProbe.Decimal.Exact

/-!
The shortest decimal of a floating-point number: of all decimals that read back as the number, the
ones with the fewest digits, and of those the nearest. A decimal is a natural number of digits and
a power of ten.
-/
namespace ApiProbe.Decimal

/-- `digits · 10 ^ power`. -/
structure Scaled where
  digits : Nat
  power : Int
  deriving Repr, DecidableEq

def length (n : Nat) : Nat := (Nat.toDigits 10 n).length

/-- Drops zeros at the end of the digits, at most `fuel` of them. -/
def Scaled.strip : Nat → Scaled → Scaled
  | 0, s => s
  | fuel + 1, s =>
    if s.digits != 0 && s.digits % 10 == 0 then strip fuel ⟨s.digits / 10, s.power + 1⟩ else s

/-- Position of the first digit of `num / den` (both positive): 0 for units, 1 for tens, -1 for
tenths. -/
def magnitude (num den : Nat) : Int :=
  if den ≤ num then Int.ofNat (length (num / den)) - 1
  else -(Int.ofNat (length ((den + num - 1) / num - 1)))

/-- The numbers that round to `mantissa · 2 ^ exponent`, in quarters of a unit in the last place. -/
structure Rounding where
  low : Nat
  value : Nat
  high : Nat
  closed : Bool

def Rounding.of (mantissa : Nat) (exponent : Int) : Rounding :=
  let down := if mantissa == Nat.pow 2 52 && exponent > -1074 then 1 else 2
  ⟨4 * mantissa - down, 4 * mantissa, 4 * mantissa + 2, mantissa % 2 == 0⟩

/-- Both fractions brought to the denominator of a decimal grid: `point · grid` against
`bound · unit`. -/
def Rounding.admits (r : Rounding) (unit grid point : Nat) : Bool :=
  let p := point * grid
  if r.closed then r.low * unit ≤ p && p ≤ r.high * unit
  else r.low * unit < p && p < r.high * unit

/-- The nearest multiple of `10 ^ power` that rounds to the number, if one of its two neighbours on
that grid does. -/
def onGrid (r : Rounding) (exponent power : Int) : Option Scaled :=
  let quarter := exponent - 2
  let unit := Nat.pow 2 quarter.toNat * Nat.pow 10 (-power).toNat
  let grid := Nat.pow 2 (-quarter).toNat * Nat.pow 10 power.toNat
  let below := r.value * unit / grid
  let above := below + 1
  match r.admits unit grid below, r.admits unit grid above with
  | false, false => none
  | true, false => some ⟨below, power⟩
  | false, true => some ⟨above, power⟩
  | true, true =>
    let gap := r.value * unit - below * grid
    let rest := above * grid - r.value * unit
    if gap < rest || (gap == rest && below % 2 == 0) then some ⟨below, power⟩
    else some ⟨above, power⟩

/-- Tries grids from coarse to fine. -/
def firstGrid (r : Rounding) (exponent : Int) : List Int → Option Scaled
  | [] => none
  | power :: rest =>
    match onGrid r exponent power with
    | some s => if s.digits == 0 then firstGrid r exponent rest else some s
    | none => firstGrid r exponent rest

/-- Shortest decimal of a positive number; seventeen digits always suffice. -/
def shortest (mantissa : Nat) (exponent : Int) : Scaled :=
  if mantissa == 0 then ⟨0, 0⟩
  else
    let num := mantissa * Nat.pow 2 exponent.toNat
    let den := Nat.pow 2 (-exponent).toNat
    let top := magnitude num den
    let powers := (List.range 19).map fun n => top + 1 - Int.ofNat n
    match firstGrid (.of mantissa exponent) exponent powers with
    | some s => s.strip 400
    | none => ⟨mantissa, exponent⟩

end ApiProbe.Decimal
