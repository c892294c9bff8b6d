/-
JSON values and their two written forms: compact, with the members of an
object in the order they are listed, and indented by two spaces, for which
the members are first put in the order of their names.

In a text only what has to be escaped is: the quote, the backslash and the
control characters below the space.
-/
import TrafficShaping.Text.Numeral

namespace TrafficShaping

/-- A JSON value. -/
inductive Json where
  | null
  | bool (b : Bool)
  | int (n : Int)
  /-- A number that is not written as an integer, as it is written. -/
  | fraction (text : String)
  | str (s : String)
  | arr (items : List Json)
  | obj (fields : List (String × Json))
  deriving Repr, Inhabited

namespace Json

-- =============================================================== text

/-- The written form of one character of a text. -/
def escapeChar (c : Char) : List Char :=
  if c == '"' then ['\\', '"']
  else if c == '\\' then ['\\', '\\']
  else if c == '\n' then ['\\', 'n']
  else if c == '\r' then ['\\', 'r']
  else if c == '\t' then ['\\', 't']
  else if c == '\x08' then ['\\', 'b']
  else if c == '\x0c' then ['\\', 'f']
  else if c.toNat < 0x20 then
    ['\\', 'u', '0', '0', Nat.digitChar (c.toNat / 16), Nat.digitChar (c.toNat % 16)]
  else [c]

/-- A text between quotes. -/
def quote (s : String) : String :=
  String.ofList ('"' :: s.toList.flatMap escapeChar ++ ['"'])

-- ============================================================ compact

mutual

/-- The compact form. -/
def render : Json → String
  | .null => "null"
  | .bool b => if b then "true" else "false"
  | .int n => n.repr
  | .fraction text => text
  | .str s => quote s
  | .arr items => "[" ++ ",".intercalate (renderItems items) ++ "]"
  | .obj fields => "\x7b" ++ ",".intercalate (renderFields fields) ++ "\x7d"

/-- The compact forms of the items of an array. -/
def renderItems : List Json → List String
  | [] => []
  | j :: rest => j.render :: renderItems rest

/-- The compact forms of the members of an object. -/
def renderFields : List (String × Json) → List String
  | [] => []
  | (name, j) :: rest => (quote name ++ ":" ++ j.render) :: renderFields rest

end

-- =========================================================== indented

/-- Puts a member in front of the first one whose name is greater. -/
def insertField (f : String × Json) : List (String × Json) → List (String × Json)
  | [] => [f]
  | g :: rest => if f.1 < g.1 then f :: g :: rest else g :: insertField f rest

mutual

/-- The value with the members of every object in the order of their
names. -/
def sortFields : Json → Json
  | .arr items => .arr (sortItems items)
  | .obj fields => .obj (sortMembers fields)
  | j => j

/-- The same for the items of an array. -/
def sortItems : List Json → List Json
  | [] => []
  | j :: rest => j.sortFields :: sortItems rest

/-- The same for the members of an object, which are put in order too. -/
def sortMembers : List (String × Json) → List (String × Json)
  | [] => []
  | (name, j) :: rest => insertField (name, j.sortFields) (sortMembers rest)

end

/-- The start of a line at a depth of nesting. -/
def indent (depth : Nat) : String := String.ofList (List.replicate (2 * depth) ' ')

/-- Lines between two brackets, and the brackets alone when there are
none. -/
def bracketed (openBracket closeBracket : String) (depth : Nat) (lines : List String) :
    String :=
  if lines.isEmpty then openBracket ++ closeBracket
  else
    openBracket ++ "\n"
      ++ ",\n".intercalate (lines.map fun l => indent (depth + 1) ++ l)
      ++ "\n" ++ indent depth ++ closeBracket

mutual

/-- The indented form at a depth of nesting. -/
def renderIndented (depth : Nat) : Json → String
  | .arr items => bracketed "[" "]" depth (indentedItems depth items)
  | .obj fields => bracketed "\x7b" "\x7d" depth (indentedFields depth fields)
  | .null => "null"
  | .bool b => if b then "true" else "false"
  | .int n => n.repr
  | .fraction text => text
  | .str s => quote s

/-- The indented forms of the items of an array. -/
def indentedItems (depth : Nat) : List Json → List String
  | [] => []
  | j :: rest => renderIndented (depth + 1) j :: indentedItems depth rest

/-- The indented forms of the members of an object. -/
def indentedFields (depth : Nat) : List (String × Json) → List String
  | [] => []
  | (name, j) :: rest =>
    (quote name ++ ": " ++ renderIndented (depth + 1) j) :: indentedFields depth rest

end

/-- The indented form, members in the order of their names. -/
def pretty (j : Json) : String := renderIndented 0 j.sortFields

end Json

end TrafficShaping
