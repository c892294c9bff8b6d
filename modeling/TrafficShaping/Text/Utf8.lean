/-
Reading bytes as UTF-8.

Bytes are read one at a time by a machine whose state is the character under
way: how many bytes it still needs, the range the next one has to lie in, and
the bits so far. The range is narrower after the first bytes E0, ED, F0 and
F4, which keeps out long forms, surrogates and values beyond the last code
point. A byte outside the range ends the character under way as ill-formed
and is then read afresh, so every maximal piece that cannot be part of a
character is one piece.
-/

namespace TrafficShaping.Text.Utf8

/-- A character under way. -/
structure Underway where
  /-- How many bytes are needed, one at least: this many and one more. -/
  more : Nat
  /-- The least byte that may come next. -/
  low : UInt8
  /-- The greatest byte that may come next. -/
  high : UInt8
  /-- The bits read so far. -/
  bits : Nat

/-- What a byte does at the start of a character: it is a character of its
own, begins one, or is ill-formed. -/
inductive Opening where
  | whole (c : Char)
  | underway (u : Underway)
  | illFormed

/-- Reads the first byte of a character. -/
def opening (b : UInt8) : Opening :=
  let n := b.toNat
  if n < 0x80 then .whole (Char.ofNat n)
  else if n < 0xC2 then .illFormed
  else if n < 0xE0 then .underway ⟨0, 0x80, 0xBF, n - 0xC0⟩
  else if n < 0xF0 then
    let low := if n = 0xE0 then 0xA0 else 0x80
    let high := if n = 0xED then 0x9F else 0xBF
    .underway ⟨1, low, high, n - 0xE0⟩
  else if n < 0xF5 then
    let low := if n = 0xF0 then 0x90 else 0x80
    let high := if n = 0xF4 then 0x8F else 0xBF
    .underway ⟨2, low, high, n - 0xF0⟩
  else .illFormed

/-- The characters that bytes spell, with nothing in the place of each
ill-formed piece. -/
def pieces : Option Underway → List UInt8 → List (Option Char)
  | none, [] => []
  | some _, [] => [none]
  | none, b :: rest =>
    match opening b with
    | .whole c => some c :: pieces none rest
    | .underway u => pieces (some u) rest
    | .illFormed => none :: pieces none rest
  | some u, b :: rest =>
    if u.low ≤ b ∧ b ≤ u.high then
      let bits := 64 * u.bits + (b.toNat - 0x80)
      match u.more with
      | 0 => some (Char.ofNat bits) :: pieces none rest
      | more + 1 => pieces (some ⟨more, 0x80, 0xBF, bits⟩) rest
    else
      none ::
        match opening b with
        | .whole c => some c :: pieces none rest
        | .underway u => pieces (some u) rest
        | .illFormed => none :: pieces none rest

/-- The text that bytes spell, unless some of them are ill-formed. -/
def decode? (bytes : List UInt8) : Option (List Char) :=
  (pieces none bytes).mapM id

/-- The text that bytes spell, with the replacement character for each
ill-formed piece. -/
def decodeLossy (bytes : List UInt8) : List Char :=
  (pieces none bytes).map fun c => c.getD '\ufffd'

end TrafficShaping.Text.Utf8
