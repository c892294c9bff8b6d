/-
Port lists: ports between commas. Blanks around a port do not matter and
neither do empty pieces, so the empty text lists no ports. Ports stay in
order, and one that is listed twice is there twice.
-/
import TrafficShaping.Failure
import TrafficShaping.Text.Blank

namespace TrafficShaping.PortList

/-- The pieces of a list that are not blank, without the blanks around
them. -/
def pieces (cs : List Char) : List (List Char) :=
  ((cs.splitOnP (· == ',')).map Text.trim).filter fun piece => !piece.isEmpty

/-- The port in one piece. -/
def port (piece : List Char) : Except Failure UInt16 :=
  match Text.readPort piece with
  | .ok n => .ok n
  | .error cause => .error (.badExcludedPort (String.ofList piece) cause)

/-- The ports of a list, or the failure of the first bad piece. -/
def parse (raw : String) : Except Failure (List UInt16) := (pieces raw.toList).mapM port

end TrafficShaping.PortList
