/-
Texts as they are shown inside messages: between quotes, with everything
escaped that could not be told apart by eye. That is the quote and the
backslash, the line end, the carriage return, the tab and the null character
by a letter, and whatever cannot be seen or attaches to the character before
it by its code point.
-/
import TrafficShaping.Text.Numeral
import TrafficShaping.Text.Visible

namespace TrafficShaping.Text.Quoted

/-- One character inside quotes. -/
def char (c : Char) : String :=
  if c == '"' then "\\\""
  else if c == '\\' then "\\\\"
  else if c == '\n' then "\\n"
  else if c == '\r' then "\\r"
  else if c == '\t' then "\\t"
  else if c == '\x00' then "\\0"
  else if !isVisible c then "\\u\x7b" ++ hex c.toNat ++ "\x7d"
  else c.toString

/-- A text between quotes. -/
def text (cs : List Char) : String := "\"" ++ String.join (cs.map char) ++ "\""

end TrafficShaping.Text.Quoted
