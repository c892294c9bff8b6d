/-
Blank characters, and the ways of reading text around them: cutting blanks
from either end of a text, and taking it apart into words.

Text is handled as a list of characters throughout, so that every rule here
is a recursion on the text itself. A blank is any character with the Unicode
property White_Space: the zero-width space, the byte order mark and the
information separators are not among them.
-/

namespace TrafficShaping.Text

-- ==================================================== the blank class

/-- The characters with the Unicode property White_Space. -/
def isBlank (c : Char) : Bool :=
  let n := c.toNat
  (9 ≤ n && n ≤ 13) || n == 0x20 || n == 0x85 || n == 0xA0 || n == 0x1680
    || (0x2000 ≤ n && n ≤ 0x200A) || n == 0x2028 || n == 0x2029
    || n == 0x202F || n == 0x205F || n == 0x3000

-- ======================================================= the two ends

/-- A text without the blanks it ends in. -/
def trimEnd (cs : List Char) : List Char :=
  (cs.reverse.dropWhile isBlank).reverse

/-- A text without the blanks at either end. -/
def trim (cs : List Char) : List Char :=
  trimEnd (cs.dropWhile isBlank)

-- ============================================================== words

/-- The words of a text: its maximal runs of characters that are not blank,
in order. -/
def words (cs : List Char) : List (List Char) :=
  (cs.splitOnP isBlank).filter (fun w => !w.isEmpty)

end TrafficShaping.Text
