/-
Strings and names of JSON5, as they are written and as the text they stand
for.

A written string is a list of pieces: characters as they are and escapes. A
four-digit escape may give half of a surrogate pair. A leading half takes the
next piece, of whatever kind, for its trailing half and reads the text of
that piece as a hexadecimal number; a trailing half must not come first. The
two halves are joined by setting bits, so a leading half whose own bits reach
into those of the trailing half loses them there.
-/
import TrafficShaping.Text.Numeral

namespace TrafficShaping.Json5

-- ============================================================= pieces

/-- A piece of a written string. -/
inductive Piece where
  /-- A character as it is. -/
  | plain (c : Char)
  /-- A backslash and one character: a control character under its letter, or
  a character that stands for itself. -/
  | escaped (c : Char)
  /-- A backslash and a zero: the null character. -/
  | zero
  /-- An escape of two hexadecimal digits. -/
  | byte (digits : List Char)
  /-- An escape of four hexadecimal digits. -/
  | unit (digits : List Char)
  deriving DecidableEq, Repr

/-- A piece without the mark of its escape. -/
def Piece.body : Piece → List Char
  | plain c => [c]
  | escaped c => [c]
  | zero => ['0']
  | byte digits => digits
  | unit digits => digits

/-- The character that a backslash and a letter stand for. -/
def unescape (c : Char) : Char :=
  match c with
  | 'b' => '\x08'
  | 'f' => '\x0c'
  | 'n' => '\n'
  | 'r' => '\r'
  | 't' => '\t'
  | 'v' => '\x0b'
  | other => other

-- ============================================================= errors

/-- Why a written string stands for no text. -/
inductive TextError where
  | trailFirst
  | notHex
  | noTrail
  | endsInLead
  deriving DecidableEq, Repr

/-- The wording of a text error. -/
def TextError.message : TextError → String
  | trailFirst => "unexpected unicode trail surrogate"
  | notHex => "error parsing hex"
  | noTrail => "expecting unicode trail surrogate"
  | endsInLead => "missing unicode trail surrogate"

-- =========================================================== decoding

/-- Whether a code is the leading half of a surrogate pair. -/
def isLead (code : Nat) : Bool := 0xD800 ≤ code && code < 0xDC00

/-- Whether a code is the trailing half of a surrogate pair. -/
def isTrail (code : Nat) : Bool := 0xDC00 ≤ code && code < 0xE000

/-- The code point of a surrogate pair. -/
def joinHalves (lead trail : Nat) : Nat :=
  ((lead - 0xD800) <<< 10) ||| ((trail - 0xDC00) + 0x10000)

/-- The value of a piece's body as a hexadecimal number. -/
def Piece.hexValue (p : Piece) : Except TextError Nat :=
  match Text.readHexDigits? 0 p.body with
  | some n => .ok n
  | none => .error .notHex

/-- The text that pieces stand for. -/
def decode : List Piece → Except TextError (List Char)
  | [] => .ok []
  | .plain c :: rest => do return c :: (← decode rest)
  | .escaped c :: rest => do return unescape c :: (← decode rest)
  | .zero :: rest => do return '\x00' :: (← decode rest)
  | .byte digits :: rest => do
    let code ← (Piece.byte digits).hexValue
    return Char.ofNat code :: (← decode rest)
  | [.unit digits] => do
    let code ← (Piece.unit digits).hexValue
    if isTrail code then .error .trailFirst
    else if isLead code then .error .endsInLead
    else return [Char.ofNat code]
  | .unit digits :: next :: rest => do
    let code ← (Piece.unit digits).hexValue
    if isTrail code then .error .trailFirst
    else if isLead code then
      let trail ← next.hexValue
      if isTrail trail then
        return Char.ofNat (joinHalves code trail) :: (← decode rest)
      else .error .noTrail
    else return Char.ofNat code :: (← decode (next :: rest))

end TrafficShaping.Json5
