/-
The shortest decimal that stands for a number in binary floating point.

All decimals in an interval around a magnitude round to it; the ends belong
to the interval when the significand is even. The decimal written is one with
the fewest digits in that interval, and of those the nearest to the
magnitude, the greater one on a tie. It is found by trying the two
neighbours of the magnitude on ever finer decimal grids: if any point of a
grid lies in the interval, so does one of these.
-/
import TrafficShaping.Decimal.Binary64

namespace TrafficShaping.Decimal

-- ============================================================ digits

/-- The decimal `digits * 10 ^ power`. -/
structure Scaled where
  digits : Nat
  power : Int
  deriving DecidableEq, Repr

/-- The interval of a magnitude as multiples of one unit: its ends, the
magnitude itself, and whether the ends belong to it. The unit is a quarter of
the magnitude's own, and is `num / den`. -/
structure Interval where
  low : Nat
  value : Nat
  high : Nat
  closed : Bool
  num : Nat
  den : Nat

/-- The interval of the numbers that round to a magnitude. Below a power of
two the neighbours are twice as close. -/
def Magnitude.interval (x : Magnitude) : Interval where
  low := 4 * x.significand - (if x.significand = Nat.pow 2 52 ∧ -1074 < x.exponent then 1 else 2)
  value := 4 * x.significand
  high := 4 * x.significand + 2
  closed := x.significand % 2 == 0
  num := Nat.pow 2 (x.exponent - 2).toNat
  den := Nat.pow 2 (2 - x.exponent).toNat

/-- Whether the interval holds `n * 10 ^ power`. -/
def Interval.holds (i : Interval) (n : Nat) (power : Int) : Bool :=
  let point := n * Nat.pow 10 power.toNat * i.den
  let scale := i.num * Nat.pow 10 (-power).toNat
  if i.closed then i.low * scale ≤ point && point ≤ i.high * scale
  else i.low * scale < point && point < i.high * scale

/-- The neighbours of the magnitude on the grid of `10 ^ power` that lie in
its interval, the nearer one first choice. -/
def Interval.onGrid? (i : Interval) (power : Int) : Option Scaled :=
  let scaled := i.value * i.num * Nat.pow 10 (-power).toNat
  let step := i.den * Nat.pow 10 power.toNat
  let below := scaled / step
  let nearer := if 2 * (scaled % step) < step then below else below + 1
  let other := if nearer = below then below + 1 else below
  if i.holds nearer power then some ⟨nearer, power⟩
  else if i.holds other power then some ⟨other, power⟩
  else none

/-- The first decimal found on grids from `10 ^ power` downwards, on `fuel`
of them. -/
def Interval.search (i : Interval) (power : Int) : Nat → Scaled
  | 0 => ⟨0, 0⟩
  | fuel + 1 =>
    match i.onGrid? power with
    | some d => d
    | none => i.search (power - 1) fuel

/-- The shortest decimal for a magnitude. The coarsest grid is above every
magnitude, and on the finest the least magnitude is found. -/
def Magnitude.shortest (x : Magnitude) : Scaled :=
  if x.significand = 0 then ⟨0, 0⟩ else x.interval.search 309 640

-- ============================================================== text

/-- A decimal with a point, at least one digit on each side of it and no
exponent. -/
def Scaled.render (d : Scaled) : String :=
  let digits := Nat.toDigits 10 d.digits
  if 0 ≤ d.power then
    String.ofList (if d.digits = 0 then digits else digits ++ List.replicate d.power.toNat '0')
      ++ ".0"
  else
    let places := (-d.power).toNat
    let padded := List.replicate (places + 1 - digits.length) '0' ++ digits
    let whole := padded.length - places
    String.ofList (padded.take whole) ++ "." ++ String.ofList (padded.drop whole)

/-- A number in its shortest form. -/
def Binary64.render : Binary64 → String
  | .finite negative x => (if negative then "-" else "") ++ x.shortest.render
  | .infinite negative => if negative then "-inf" else "inf"
  | .notANumber => "NaN"

end TrafficShaping.Decimal
