/-
Decimal numerals with an upper limit: how a port or a count is read.

A numeral is an optional single `+` and at least one ASCII digit; leading
zeros are fine. Reading goes from left to right and stops at the first
character that settles the matter: one that is no digit, or a digit with
which the value passes the limit. So `70000x` is too large for a port while
`7000x` has a bad digit.
-/

namespace TrafficShaping.Text

-- ===================================================== why it is none

/-- Why a text is not a numeral within its limit. -/
inductive NumeralError where
  | empty
  | invalidDigit
  | tooLarge
  deriving DecidableEq, Repr

/-- The wording of a numeral error. -/
def NumeralError.message : NumeralError → String
  | .empty => "cannot parse integer from empty string"
  | .invalidDigit => "invalid digit found in string"
  | .tooLarge => "number too large to fit in target type"

-- ============================================================ reading

/-- The value of an ASCII digit. -/
def digitValue (c : Char) : Nat := c.toNat - '0'.toNat

/-- Reads further digits onto the value `v`. -/
def readDigits (limit : Nat) : Nat → List Char → Except NumeralError Nat
  | v, [] => .ok v
  | v, c :: cs =>
    if c.isDigit then
      let v' := 10 * v + digitValue c
      if v' ≤ limit then readDigits limit v' cs else .error .tooLarge
    else .error .invalidDigit

/-- The value of a numeral that does not pass `limit`. -/
def readNumeral (limit : Nat) : List Char → Except NumeralError Nat
  | [] => .error .empty
  | ['+'] => .error .invalidDigit
  | '+' :: cs => readDigits limit 0 cs
  | cs => readDigits limit 0 cs

/-- The value of a numeral that fits 16 bits: a port. -/
def readPort (cs : List Char) : Except NumeralError UInt16 :=
  (readNumeral 65535 cs).map UInt16.ofNat

/-- An integer that fits 64 bits with a sign: an optional sign and at least
one ASCII digit. -/
def readInt64? (cs : List Char) : Option Int :=
  let (negative, digits) :=
    match cs with
    | '-' :: rest => (true, rest)
    | '+' :: rest => (false, rest)
    | rest => (false, rest)
  if digits.isEmpty || !digits.all Char.isDigit then none
  else
    let n := digits.foldl (fun v c => 10 * v + digitValue c) 0
    if negative then
      if n ≤ Nat.pow 2 63 then some (-(n : Int)) else none
    else
      if n < Nat.pow 2 63 then some (n : Int) else none

-- ============================================================ writing

/-- A number in lower-case hexadecimal digits, without leading zeros. -/
def hex (n : Nat) : String := String.ofList (Nat.toDigits 16 n)

/-- The value of a hexadecimal digit of either case. -/
def hexValue? (c : Char) : Option Nat :=
  if c.isDigit then some (c.toNat - '0'.toNat)
  else if 'a' ≤ c && c ≤ 'f' then some (c.toNat - 'a'.toNat + 10)
  else if 'A' ≤ c && c ≤ 'F' then some (c.toNat - 'A'.toNat + 10)
  else none

/-- Reads further hexadecimal digits onto the value `v`; nothing when a
character is no such digit. -/
def readHexDigits? : Nat → List Char → Option Nat
  | v, [] => some v
  | v, c :: cs =>
    match hexValue? c with
    | some d => readHexDigits? (16 * v + d) cs
    | none => none

end TrafficShaping.Text
