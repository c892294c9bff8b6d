/-
JSON forms: how a type is written as a JSON value and read back.

Reading accepts a little more than writing produces. A record is an object
whose members may come in any order, with unknown ones passed over, or an
array of exactly its members in order; an optional member may be missing from
the object or null. A constant of a choice is its name, or an object that
holds the name with null. Numbers have to be written as integers and lie in
range.
-/
import TrafficShaping.Json.Value

namespace TrafficShaping

/-- A type with a JSON form. -/
class JsonForm (α : Type) where
  toJson : α → Json
  ofJson? : Json → Option α

export JsonForm (toJson ofJson?)

-- ======================================================= plain values

instance : JsonForm String where
  toJson := .str
  ofJson?
    | .str s => some s
    | _ => none

instance : JsonForm Bool where
  toJson := .bool
  ofJson?
    | .bool b => some b
    | _ => none

/-- The natural number that a value stands for, when it is at most
`limit`. -/
def Json.natural? (limit : Nat) : Json → Option Nat
  | .int n => if 0 ≤ n ∧ n.toNat ≤ limit then some n.toNat else none
  | _ => none

instance : JsonForm UInt16 where
  toJson n := .int n.toNat
  ofJson? j := (j.natural? 65535).map UInt16.ofNat

instance : JsonForm UInt32 where
  toJson n := .int n.toNat
  ofJson? j := (j.natural? 4294967295).map UInt32.ofNat

variable {α : Type} [JsonForm α]

instance : JsonForm (List α) where
  toJson items := .arr (items.map toJson)
  ofJson?
    | .arr items => items.mapM ofJson?
    | _ => none

instance : JsonForm (Option α) where
  toJson
    | some a => toJson a
    | none => .null
  ofJson?
    | .null => some none
    | j => (ofJson? j).map some

-- ============================================================ records

namespace Json

/-- The members of a record, by these names: from an object, where any may be
missing, or from an array that holds them all in order. -/
def members? (names : List String) : Json → Option (List (Option Json))
  | .obj fields => some (names.map fun name => fields.lookup name)
  | .arr items => if items.length = names.length then some (items.map some) else none
  | _ => none

/-- A member that has to be there. -/
def need (member : Option Json) : Option α := member.bind ofJson?

/-- A member that may be missing. -/
def allow (member : Option Json) : Option (Option α) :=
  match member with
  | none => some none
  | some j => ofJson? j

-- ============================================================ choices

/-- The name of a choice and what is given with it. -/
def choice? : Json → Option (String × Option Json)
  | .str name => some (name, none)
  | .obj [(name, j)] => some (name, some j)
  | _ => none

/-- The name of a choice that is given nothing, or null. -/
def constant? (j : Json) : Option String :=
  match j.choice? with
  | some (name, none) => some name
  | some (name, some .null) => some name
  | _ => none

end Json

end TrafficShaping
