/-
Raw parameters: the text a user gives for a shaping stage, handed to the
traffic control tool word by word and never looked into.

A text that is blank gives no parameters, and with them no stage. Any other
text is kept as written, the blanks around it apart.
-/
import TrafficShaping.Text.Blank

namespace TrafficShaping

/-- The parameter text of a shaping stage. -/
structure RawParams where
  text : String
  deriving DecidableEq, Repr

namespace RawParams

/-- The parameters in a text, unless it is blank. -/
def ofText? (raw : String) : Option RawParams :=
  let cs := Text.trim raw.toList
  if cs.isEmpty then none else some ⟨String.ofList cs⟩

/-- The words of the parameters, in order. -/
def words (p : RawParams) : List String :=
  (Text.words p.text.toList).map String.ofList

end RawParams

end TrafficShaping
