/-
Numbers of 64 bits in binary floating point, as exact values.

A finite number is a sign and a magnitude, a whole significand below 2^53
times a power of two that is at least 2^-1074. A ratio is rounded to the
nearest magnitude, and one halfway between two to the one with the even
significand; beyond the greatest magnitude it overflows. Everything is
integer arithmetic.
-/

namespace TrafficShaping.Decimal

/-- The magnitude `significand * 2 ^ exponent`. -/
structure Magnitude where
  significand : Nat
  exponent : Int
  deriving DecidableEq, Repr

/-- A number, or one of the values that stand for none. -/
inductive Binary64 where
  | finite (negative : Bool) (size : Magnitude)
  | infinite (negative : Bool)
  | notANumber
  deriving DecidableEq, Repr

-- =========================================================== rounding

/-- A quotient rounded to the nearest whole number, halves to the even
one. -/
def roundDiv (num den : Nat) : Nat :=
  let q := num / den
  let r := num % den
  if 2 * r < den then q
  else if den < 2 * r then q + 1
  else q + q % 2

/-- The greatest `e` with `2 ^ e` at most the positive ratio. -/
def logRatio (num den : Nat) : Int :=
  let e := (num.log2 : Int) - den.log2
  if den * Nat.pow 2 e.toNat ≤ num * Nat.pow 2 (-e).toNat then e else e - 1

/-- The magnitude nearest to a ratio, unless it overflows. -/
def Magnitude.ofRatio? (num den : Nat) : Option Magnitude :=
  if num = 0 then some ⟨0, -1074⟩
  else
    let e := max (logRatio num den - 52) (-1074)
    let m := roundDiv (num * Nat.pow 2 (-e).toNat) (den * Nat.pow 2 e.toNat)
    let (m, e) := if m = Nat.pow 2 53 then (Nat.pow 2 52, e + 1) else (m, e)
    if e ≤ 971 then some ⟨m, e⟩ else none

/-- The magnitude nearest to `digits * 10 ^ power`, unless it overflows.
Powers far out of range are settled by the number of digits alone. -/
def Magnitude.ofDecimal? (digits : Nat) (power : Int) : Option Magnitude :=
  let size := power + (Nat.toDigits 10 digits).length
  if digits = 0 || size < -400 then some ⟨0, -1074⟩
  else if 400 < size then none
  else Magnitude.ofRatio? (digits * Nat.pow 10 power.toNat) (Nat.pow 10 (-power).toNat)

-- ========================================================= truncation

/-- The whole part of a magnitude. -/
def Magnitude.floor (x : Magnitude) : Nat :=
  x.significand * Nat.pow 2 x.exponent.toNat / Nat.pow 2 (-x.exponent).toNat

/-- The number as 16 bits: its whole part, cut off at either end, and zero for
what is no number. -/
def Binary64.toUInt16 : Binary64 → UInt16
  | .finite false x => UInt16.ofNat (min x.floor 65535)
  | .infinite false => 65535
  | .finite true _ => 0
  | .infinite true => 0
  | .notANumber => 0

end TrafficShaping.Decimal
