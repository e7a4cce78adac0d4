import ApiProbe.Calendar
import ApiProbe.Text.Quoted

/-!
What a run takes from the world: the present time, and words nobody can foretell. Whoever draws
words gets back the supply that is left.
-/
namespace ApiProbe

structure Supply where
  now : Instant
  seed : UInt64

namespace Supply

/-- One word of 64 bits. -/
def draw (supply : Supply) : UInt64 × Supply :=
  let seed := supply.seed + 0x9E3779B97F4A7C15
  let a := (seed ^^^ (seed >>> 30)) * 0xBF58476D1CE4E5B9
  let b := (a ^^^ (a >>> 27)) * 0x94D049BB133111EB
  (b ^^^ (b >>> 31), { supply with seed })

/-- The lowest `digits` hexadecimal digits of a number. -/
def hexDigits (digits n : Nat) : String :=
  let text := Text.hexText (n % Nat.pow 16 digits)
  String.ofList (List.replicate (digits - text.length) '0') ++ text

/-- A random identifier of 128 bits in five groups, marked as version 4. -/
def uuid (supply : Supply) : String × Supply :=
  let (high, afterHigh) := supply.draw
  let (low, rest) := afterHigh.draw
  let h := high.toNat
  let l := low.toNat
  let text := hexDigits 8 (h / Nat.pow 2 32) ++ "-" ++ hexDigits 4 (h / Nat.pow 2 16) ++ "-4"
    ++ hexDigits 3 h ++ "-" ++ hexDigits 1 (8 + l / Nat.pow 2 60 % 4)
    ++ hexDigits 3 (l / Nat.pow 2 48) ++ "-" ++ hexDigits 12 l
  (text, rest)

/-- An integer between two bounds, both included. -/
def between (low high : Int) (supply : Supply) : Int × Supply :=
  let (a, afterFirst) := supply.draw
  let (b, rest) := afterFirst.draw
  let span := (high - low + 1).toNat
  (low + Int.ofNat ((a.toNat * Nat.pow 2 64 + b.toNat) % span), rest)

end Supply
end ApiProbe
