/-
Reading profiles from JSON5 texts.

The whole text is read as JSON5 first; after that its values are taken from
left to right, and the first that does not fit ends the reading. A profile is
an object, whose members are looked at one by one, key before value, or an
array of its eight fields in order. Any field but the description may be
null, which is as if it were not there.

One mistake is beyond being reported. Where a port should stand, the first two
bytes of the text are looked at for the mark of a hexadecimal, and when they
end inside a character the program breaks off.
-/
import TrafficShaping.Fault
import TrafficShaping.Json5.Reader
import TrafficShaping.Profile
import TrafficShaping.Text.Quoted

namespace TrafficShaping.Profile

open Json5

-- ============================================================= errors

/-- Why a text is no profile. -/
inductive ReadError where
  /-- It is not JSON5. -/
  | malformed
  | text (e : TextError)
  | number (e : NumberError)
  /-- The first two bytes of a value end inside a character. -/
  | cutCharacter
  /-- Something was found where something else was expected. -/
  | unexpected (found expected : String)
  /-- An array ended before its eighth element. -/
  | tooShort (length : Nat)
  | unknownField (name : String)
  | repeatedField (field : Field)
  deriving DecidableEq, Repr

/-- The wording of a read error. An arrow sets off what belongs to the place
in the text rather than to the error. -/
def ReadError.message : ReadError → String
  | malformed => " --> the text is not JSON5"
  | text e => e.message
  | number e => e.message
  | cutCharacter => "a character was cut in two"
  | unexpected found expected => "invalid type: " ++ found ++ ", expected " ++ expected
  | tooShort length =>
    "invalid length " ++ length.repr ++ ", expected struct ProfileFile with 8 elements"
  | unknownField name =>
    "unknown field `" ++ name ++ "`, expected one of "
      ++ ", ".intercalate (Field.all.map fun f => "`" ++ f.name ++ "`")
  | repeatedField field => "duplicate field `" ++ field.name ++ "`"

-- ====================================================== single values

/-- Takes the text that pieces stand for. -/
def takePieces (pieces : List Piece) : Except ReadError String :=
  match decode pieces with
  | .ok cs => .ok (String.ofList cs)
  | .error e => .error (.text e)

/-- How a value is called where it was not expected. A string or number that
stands for nothing is an error of its own. -/
def found : Tree → Except ReadError String
  | .null => .ok "unit value"
  | .bool b => .ok ("boolean `" ++ (if b then "true" else "false") ++ "`")
  | .number n =>
    match n.value with
    | .ok (.integer v) => .ok ("integer `" ++ v.repr ++ "`")
    | .ok (.real x) => .ok ("floating point `" ++ x.render ++ "`")
    | .error e => .error (.number e)
  | .string _ pieces => do
    let s ← takePieces pieces
    return "string " ++ Text.Quoted.text s.toList
  | .array _ _ => .ok "sequence"
  | .object _ _ => .ok "map"

/-- The error for a value where `expected` should stand. -/
def mismatch {α : Type} (t : Tree) (expected : String) : Except ReadError α := do
  throw (.unexpected (← found t) expected)

/-- A string. -/
def takeString : Tree → Except ReadError String
  | .string _ pieces => takePieces pieces
  | t => mismatch t "a string"

/-- A truth value. -/
def takeBool : Tree → Except ReadError Bool
  | .bool b => .ok b
  | t => mismatch t "a boolean"

/-- The error for a value that is no number, by the character behind the one
that opens it: one of several bytes has its first byte only among the first
two of the value. -/
def noNumber (next : Char) : ReadError :=
  if next.utf8Size = 1 then .number .badNumber else .cutCharacter

/-- A port. Every number is one, cut off at either end; nothing else is. -/
def takePort : Tree → Except ReadError UInt16
  | .number n =>
    match n.toBinary64 with
    | .ok x => .ok x.toUInt16
    | .error e => .error (.number e)
  | .string next _ => .error (noNumber next)
  | .array next _ => .error (noNumber next)
  | .object next _ => .error (noNumber next)
  | _ => .error (.number .badNumber)

/-- A list of ports. -/
def takePorts : Tree → Except ReadError (List UInt16)
  | .array _ items => items.mapM takePort
  | t => mismatch t "a sequence"

/-- A value that may be null. -/
def takeOption {α : Type} (take : Tree → Except ReadError α) :
    Tree → Except ReadError (Option α)
  | .null => .ok none
  | t => (take t).map some

-- ============================================================= fields

/-- A profile as it is being read, with the warnings that its selectors
give. -/
structure Reading where
  profile : Profile
  warnings : List UnreadablePort

/-- The reading with nothing read. -/
def Reading.empty : Reading := ⟨Profile.empty, []⟩

/-- A selector, or null. -/
def takeSelector (t : Tree) : Except ReadError (Option Selector × List UnreadablePort) := do
  match ← takeOption takeString t with
  | none => return (none, [])
  | some raw =>
    let (selector, warning) := Selector.read raw
    return (some selector, warning.toList)

/-- The reading after the value of one more field. -/
def Reading.take (r : Reading) (field : Field) (t : Tree) : Except ReadError Reading := do
  let p := r.profile
  match field with
  | .description => return { r with profile := { p with description := ← takeString t } }
  | .interface => return { r with profile := { p with interface := ← takeOption takeString t } }
  | .bandwidth => return { r with profile := { p with bandwidth := ← takeOption takeString t } }
  | .impairment =>
    return { r with profile := { p with impairment := ← takeOption takeString t } }
  | .source =>
    let (selector, warnings) ← takeSelector t
    return ⟨{ p with source := selector }, r.warnings ++ warnings⟩
  | .destination =>
    let (selector, warnings) ← takeSelector t
    return ⟨{ p with destination := selector }, r.warnings ++ warnings⟩
  | .exclude => return { r with profile := { p with exclude := ← takeOption takePorts t } }
  | .reorder => return { r with profile := { p with reorder := ← takeOption takeBool t } }

/-- Reads the members of an object; `seen` are the fields read before. -/
def takeMembers (seen : List Field) (r : Reading) :
    List (List Piece × Tree) → Except ReadError Reading
  | [] => .ok r
  | (key, t) :: rest => do
    let name ← takePieces key
    let some field := Field.ofName? name | throw (.unknownField name)
    if seen.contains field then throw (.repeatedField field)
    takeMembers (field :: seen) (← r.take field t) rest

/-- Reads the items of an array into the fields in order, and passes over
surplus items. An empty array is short at its second element, since the
description alone may be missing. -/
def takeItems (taken : Nat) (r : Reading) : List Field → List Tree → Except ReadError Reading
  | [], _ => .ok r
  | _ :: _, [] => .error (.tooShort (max taken 1))
  | field :: fields, t :: rest => do
    takeItems (taken + 1) (← r.take field t) fields rest

/-- Reads a profile from a tree. -/
def ofTree : Tree → Except ReadError Reading
  | .object _ members => takeMembers [] Reading.empty members
  | .array _ items => takeItems 0 Reading.empty Field.all items
  | t => mismatch t "struct ProfileFile"

/-- Reads a profile from a text. -/
def ofText (text : String) : Except ReadError Reading :=
  match Json5.read? text.toList with
  | some tree => ofTree tree
  | none => .error .malformed

/-- Reads a profile from the text that came from `origin`. -/
def parse (text origin : String) : Except Fault Reading :=
  match ofText text with
  | .ok r => .ok r
  | .error .cutCharacter => .error .brokenOff
  | .error e => .error (.badProfile origin e.message)

end TrafficShaping.Profile
