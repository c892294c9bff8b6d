/-
Patterns that stand at the start of a line, and where a text is searched for
them.

A pattern says of a text whether it begins with a match, what that match is,
and how many characters it takes up; that may be more than the line. The
search goes through the text once, from left to right, and resumes behind
each match: a line start that an earlier match reaches over is passed by.
-/

namespace TrafficShaping.Text

variable {α : Type}

/-- The matches in a text, in order. `lineStart` says that the text begins a
line, and `taken` how many of its characters belong to the last match still. -/
def matchesFrom (pattern : List Char → Option (α × Nat)) (lineStart : Bool) (taken : Nat) :
    List Char → List α
  | [] => []
  | c :: cs =>
    match taken with
    | taken + 1 => matchesFrom pattern (c == '\n') taken cs
    | 0 =>
      match if lineStart then pattern (c :: cs) else none with
      | some (found, length) => found :: matchesFrom pattern (c == '\n') (length - 1) cs
      | none => matchesFrom pattern (c == '\n') 0 cs

/-- The matches in a whole text. -/
def lineMatches (pattern : List Char → Option (α × Nat)) (text : List Char) : List α :=
  matchesFrom pattern true 0 text

end TrafficShaping.Text
