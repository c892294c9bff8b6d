/-
Numbers of JSON5, as they are written and as the values they stand for.

A written number is read in one of two ways. As a plain value it is an
integer unless it has a point, an exponent, or is one of the words for no
finite number; an integer is hexadecimal with 32 bits and no sign, or decimal
with 64 bits. As a floating point number everything but a hexadecimal with a
sign can be read, and must not overflow.
-/
import TrafficShaping.Decimal.Shortest
import TrafficShaping.Text.Numeral

namespace TrafficShaping.Json5

/-- A sign as it is written. -/
inductive Sign where
  | unsigned
  | plus
  | minus
  deriving DecidableEq, Repr

/-- What is written after the sign of a number. -/
inductive NumberBody where
  | hex (digits : List Char)
  | infinity
  | notANumber
  /-- The digits before the point, those after it where there is one, and the
  exponent with its sign where there is one. -/
  | decimal (whole : List Char) (fraction : Option (List Char))
      (exponent : Option (Sign × List Char))
  deriving DecidableEq, Repr

/-- A number as it is written. -/
structure Number where
  sign : Sign
  body : NumberBody
  deriving DecidableEq, Repr

-- ============================================================= errors

/-- Why a written number has no value. -/
inductive NumberError where
  | badInteger
  | badHex
  | badNumber
  | tooLarge
  deriving DecidableEq, Repr

/-- The wording of a number error. -/
def NumberError.message : NumberError → String
  | badInteger => "error parsing integer"
  | badHex => "error parsing hex"
  | badNumber => "error parsing number"
  | tooLarge => "error parsing number: too large"

-- ============================================================= values

namespace Number

/-- The value of decimal digits. -/
def natural (digits : List Char) : Nat :=
  digits.foldl (fun v c => 10 * v + Text.digitValue c) 0

/-- The value of an exponent. -/
def exponentValue : Option (Sign × List Char) → Int
  | none => 0
  | some (.minus, digits) => -(natural digits : Int)
  | some (_, digits) => natural digits

/-- The value of hexadecimal digits, which has to fit 32 bits. -/
def hexValue (digits : List Char) : Except NumberError Nat :=
  match Text.readHexDigits? 0 digits with
  | some n => if n < UInt32.size then .ok n else .error .badHex
  | none => .error .badHex

/-- The number in floating point. -/
def toBinary64 (n : Number) : Except NumberError Decimal.Binary64 :=
  match n.body, n.sign with
  | .infinity, .plus => .error .tooLarge
  | .infinity, sign => .ok (.infinite (sign == .minus))
  | .notANumber, .plus => .error .tooLarge
  | .notANumber, _ => .ok .notANumber
  | .hex digits, .unsigned =>
    match hexValue digits with
    | .ok v =>
      match Decimal.Magnitude.ofDecimal? v 0 with
      | some x => .ok (.finite false x)
      | none => .error .tooLarge
    | .error e => .error e
  | .hex _, _ => .error .badNumber
  | .decimal whole fraction exponent, sign =>
    let digits := whole ++ fraction.getD []
    let power := exponentValue exponent - (fraction.getD []).length
    match Decimal.Magnitude.ofDecimal? (natural digits) power with
    | some x => .ok (.finite (sign == .minus) x)
    | none => .error .tooLarge

/-- A number by itself: an integer, or else in floating point. -/
inductive Value where
  | integer (n : Int)
  | real (x : Decimal.Binary64)

/-- Whether a number is read as an integer. A hexadecimal with a sign is one
only as long as none of its digits could be taken for the mark of an
exponent. -/
def isInteger (n : Number) : Bool :=
  match n.body with
  | .hex digits => n.sign == .unsigned || !(digits.contains 'e' || digits.contains 'E')
  | .infinity => n.sign == .plus
  | .notANumber => n.sign == .plus
  | .decimal _ fraction exponent => fraction.isNone && exponent.isNone

/-- The value of a number that is read as an integer. -/
def integer (n : Number) : Except NumberError Int :=
  match n.body with
  | .hex digits =>
    if n.sign == .unsigned then (hexValue digits).map Int.ofNat else .error .badInteger
  | .decimal whole _ _ =>
    let v : Int := if n.sign == .minus then -(natural whole : Int) else natural whole
    if -(Nat.pow 2 63) ≤ v ∧ v < Nat.pow 2 63 then .ok v else .error .badInteger
  | _ => .error .badInteger

/-- The value of a number by itself. -/
def value (n : Number) : Except NumberError Value :=
  if n.isInteger then n.integer.map .integer else n.toBinary64.map .real

end Number

end TrafficShaping.Json5
