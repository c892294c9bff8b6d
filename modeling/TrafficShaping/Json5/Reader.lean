/-
Reading JSON5: from a text to the tree it describes, as it is written.

Strings, names and numbers stay in their written form, since what they stand
for, or that they stand for nothing, matters only where they are used. So
reading fails for malformed texts alone, and before anything else about a
text can fail.

Each step takes the text that is left and gives what it found together with
what is left then, or nothing. Blanks and comments may stand between any two
steps of a value, but not inside a string, name or number.
-/
import TrafficShaping.Json5.Number
import TrafficShaping.Json5.Text
import TrafficShaping.Text.Identifier

namespace TrafficShaping.Json5

/-- A value as it is written. Of a value that opens with a quote or a bracket
`next` is the character right behind that. -/
inductive Tree where
  | null
  | bool (b : Bool)
  | number (n : Number)
  | string (next : Char) (pieces : List Piece)
  | array (next : Char) (items : List Tree)
  | object (next : Char) (members : List (List Piece × Tree))

-- ================================================ blanks and comments

/-- The characters that end a line. -/
def isLineEnd (c : Char) : Bool :=
  c == '\n' || c == '\r' || c == '\u2028' || c == '\u2029'

/-- The characters that may stand between the steps of a value. -/
def isSpace (c : Char) : Bool :=
  let n := c.toNat
  n == 0x09 || n == 0x0b || n == 0x0c || n == 0x20 || n == 0xA0 || n == 0xFEFF
    || n == 0x1680 || (0x2000 ≤ n && n ≤ 0x200A) || n == 0x202F || n == 0x205F
    || n == 0x3000 || isLineEnd c

mutual

/-- What follows blanks and comments. -/
def skip : List Char → List Char
  | [] => []
  | '/' :: '/' :: rest => skipLine rest
  | '/' :: '*' :: rest => skipBlock ('/' :: '*' :: rest) rest
  | c :: rest => if isSpace c then skip rest else c :: rest

/-- What follows the rest of a line comment and further blanks and
comments. -/
def skipLine : List Char → List Char
  | [] => []
  | c :: rest => if isLineEnd c then skip rest else skipLine rest

/-- What follows the rest of a block comment and further blanks and comments.
A block comment that does not end is none, and is left where it began. -/
def skipBlock (start : List Char) : List Char → List Char
  | [] => start
  | '*' :: '/' :: rest => skip rest
  | _ :: rest => skipBlock start rest

end

-- ============================================================ numbers

/-- Whether a character is a hexadecimal digit. -/
def isHexDigit (c : Char) : Bool := (Text.hexValue? c).isSome

/-- A sign, which may be missing. -/
def sign : List Char → Sign × List Char
  | '+' :: rest => (.plus, rest)
  | '-' :: rest => (.minus, rest)
  | rest => (.unsigned, rest)

/-- An exponent, which is missing unless it has a digit. -/
def exponent (cs : List Char) : Option (Sign × List Char) × List Char :=
  match cs with
  | [] => (none, [])
  | c :: rest =>
    if c == 'e' || c == 'E' then
      let (s, rest) := sign rest
      let digits := rest.takeWhile Char.isDigit
      if digits.isEmpty then (none, cs) else (some (s, digits), rest.dropWhile Char.isDigit)
    else (none, cs)

/-- The digits before a point: no leading zeros. -/
def wholePart (cs : List Char) : List Char × List Char :=
  match cs with
  | '0' :: rest => (['0'], rest)
  | _ => (cs.takeWhile Char.isDigit, cs.dropWhile Char.isDigit)

/-- A decimal number without its sign. -/
def decimal? (cs : List Char) : Option (NumberBody × List Char) :=
  let (whole, rest) := wholePart cs
  match rest with
  | '.' :: rest' =>
    let fraction := rest'.takeWhile Char.isDigit
    if whole.isEmpty && fraction.isEmpty then none
    else
      let (e, rest) := exponent (rest'.dropWhile Char.isDigit)
      some (.decimal whole (some fraction) e, rest)
  | _ =>
    if whole.isEmpty then none
    else
      let (e, rest) := exponent rest
      some (.decimal whole none e, rest)

/-- A hexadecimal number without its sign; one digit at least. -/
def hexadecimal? : List Char → Option (NumberBody × List Char)
  | '0' :: x :: rest =>
    if (x == 'x' || x == 'X') && rest.head?.any isHexDigit then
      some (.hex (rest.takeWhile isHexDigit), rest.dropWhile isHexDigit)
    else none
  | _ => none

/-- What follows a word, where the text begins with it. -/
def word? (w : String) (cs : List Char) : Option (List Char) := w.toList.isPrefixOf? cs

/-- A number. -/
def number? (cs : List Char) : Option (Number × List Char) :=
  let (s, rest) := sign cs
  let body : Option (NumberBody × List Char) :=
    match hexadecimal? rest, word? "Infinity" rest, word? "NaN" rest with
    | some found, _, _ => some found
    | none, some rest, _ => some (.infinity, rest)
    | none, none, some rest => some (.notANumber, rest)
    | none, none, none => decimal? rest
  body.map fun (b, rest) => (⟨s, b⟩, rest)

-- ================================================== strings and names

/-- The escape that follows a backslash: the piece it makes, if it makes any,
and how many characters it takes. A line end after the backslash makes none,
so that a string may go on in the next line. -/
def escape? : List Char → Option (Option Piece × Nat)
  | '\r' :: '\n' :: _ => some (none, 2)
  | 'u' :: a :: b :: c :: d :: _ =>
    if [a, b, c, d].all isHexDigit then some (some (.unit [a, b, c, d]), 5) else none
  | 'x' :: a :: b :: _ =>
    if [a, b].all isHexDigit then some (some (.byte [a, b]), 3) else none
  | '0' :: _ => some (some .zero, 1)
  | c :: _ =>
    if isLineEnd c then some (none, 1)
    else if c.isDigit || c == 'x' || c == 'u' then none
    else some (some (.escaped c), 1)
  | [] => none

/-- The rest of a string up to the quote that ends it; `taken` characters
belong to the last escape still. -/
def stringEnd? (quote : Char) : Nat → List Char → Option (List Piece × List Char)
  | _, [] => none
  | taken + 1, _ :: cs => stringEnd? quote taken cs
  | 0, c :: cs =>
    if c == quote then some ([], cs)
    else if c == '\\' then
      match escape? cs with
      | none => none
      | some (piece, length) =>
        (stringEnd? quote length cs).map fun (pieces, rest) => (piece.toList ++ pieces, rest)
    else if isLineEnd c then none
    else (stringEnd? quote 0 cs).map fun (pieces, rest) => (.plain c :: pieces, rest)

/-- A string between either kind of quotes. -/
def string? : List Char → Option (List Piece × List Char)
  | '"' :: rest => stringEnd? '"' 0 rest
  | '\'' :: rest => stringEnd? '\'' 0 rest
  | _ => none

/-- The rest of a name, as far as characters or escapes of four digits go
on. -/
def nameRest : List Char → List Piece × List Char
  | '\\' :: 'u' :: a :: b :: c :: d :: rest =>
    if [a, b, c, d].all isHexDigit then
      let (pieces, left) := nameRest rest
      (.unit [a, b, c, d] :: pieces, left)
    else ([], '\\' :: 'u' :: a :: b :: c :: d :: rest)
  | c :: rest =>
    if Text.isIdentifierPart c then
      let (pieces, left) := nameRest rest
      (.plain c :: pieces, left)
    else ([], c :: rest)
  | [] => ([], [])

/-- A name: it begins with a letter, `$`, `_` or an escape. -/
def name? : List Char → Option (List Piece × List Char)
  | [] => none
  | c :: rest =>
    let begins := c == '\\' || Text.isIdentifierStart c
    match begins, nameRest (c :: rest) with
    | true, (p :: pieces, left) => some (p :: pieces, left)
    | _, _ => none

/-- The key of a member. -/
def key? (cs : List Char) : Option (List Piece × List Char) :=
  match string? cs with
  | some found => some found
  | none => name? cs

-- ============================================================= values

/-- The second character of a text; a blank where there is none. -/
def second (cs : List Char) : Char := cs.tail.headD ' '

/-- A value that holds no other. -/
def scalar? (cs : List Char) : Option (Tree × List Char) :=
  match word? "null" cs, word? "true" cs, word? "false" cs with
  | some rest, _, _ => some (.null, rest)
  | none, some rest, _ => some (.bool true, rest)
  | none, none, some rest => some (.bool false, rest)
  | none, none, none =>
    match string? cs with
    | some (pieces, rest) => some (.string (second cs) pieces, rest)
    | none => (number? cs).map fun (n, rest) => (.number n, rest)

mutual

/-- A value, at most `fuel` steps deep and long. -/
def value? : Nat → List Char → Option (Tree × List Char)
  | 0, _ => none
  | fuel + 1, cs =>
    match cs with
    | '[' :: rest =>
      match skip rest with
      | ']' :: rest => some (.array (second cs) [], rest)
      | rest => (items? fuel rest).map fun (items, rest) => (.array (second cs) items, rest)
    | '\x7b' :: rest =>
      match skip rest with
      | '\x7d' :: rest => some (.object (second cs) [], rest)
      | rest =>
        (members? fuel rest).map fun (members, rest) => (.object (second cs) members, rest)
    | _ => scalar? cs

/-- The items of an array and its end, from its first item on. -/
def items? : Nat → List Char → Option (List Tree × List Char)
  | 0, _ => none
  | fuel + 1, cs =>
    match value? fuel cs with
    | none => none
    | some (item, rest) =>
      match skip rest with
      | ']' :: rest => some ([item], rest)
      | ',' :: rest =>
        match skip rest with
        | ']' :: rest => some ([item], rest)
        | rest => (items? fuel rest).map fun (items, rest) => (item :: items, rest)
      | _ => none

/-- The members of an object and its end, from its first member on. -/
def members? : Nat → List Char → Option (List (List Piece × Tree) × List Char)
  | 0, _ => none
  | fuel + 1, cs =>
    match key? cs with
    | none => none
    | some (key, rest) =>
      match skip rest with
      | ':' :: rest =>
        match value? fuel (skip rest) with
        | none => none
        | some (value, rest) =>
          match skip rest with
          | '\x7d' :: rest => some ([(key, value)], rest)
          | ',' :: rest =>
            match skip rest with
            | '\x7d' :: rest => some ([(key, value)], rest)
            | rest =>
              (members? fuel rest).map fun (members, rest) => ((key, value) :: members, rest)
          | _ => none
      | _ => none

end

/-- The value that a text describes. Every step takes at least one character,
so the length of the text bounds their number. -/
def read? (cs : List Char) : Option Tree :=
  match value? (cs.length + 1) (skip cs) with
  | some (tree, rest) => if (skip rest).isEmpty then some tree else none
  | none => none

end TrafficShaping.Json5
