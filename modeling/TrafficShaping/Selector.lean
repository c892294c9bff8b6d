/-
Selectors: which end point of a packet a policy is about, written
`host[/mask]:port`.

Either half may be a wildcard, which leaves it absent, and the word `none`
selects nothing at all. Reading a selector never fails: a host is taken as it
stands, and a port that is no numeral below 65536 is a wildcard too, with a
warning. What reading yields is always in a form that its written form reads
back to.
-/
import TrafficShaping.Text.Blank
import TrafficShaping.Text.Search
import TrafficShaping.Text.Numeral

namespace TrafficShaping

/-- The end points a policy is about; an absent half matches everything. -/
inductive Selector where
  | nothing
  | matching (network : Option String) (port : Option UInt16)
  deriving DecidableEq, Repr

/-- A port that could not be read and so matches any port. -/
structure UnreadablePort where
  /-- The whole selector, without the blanks around it. -/
  selector : String
  /-- The part that is no port. -/
  port : String
  cause : Text.NumeralError
  deriving DecidableEq, Repr

namespace Selector

/-- The selector of every address and port. -/
def all : Selector := .matching none none

/-- The constraint on the address, if there is one. -/
def network : Selector → Option String
  | .nothing => none
  | .matching network _ => network

/-- The constraint on the port, if there is one. -/
def port : Selector → Option UInt16
  | .nothing => none
  | .matching _ port => port

-- ============================================================ reading

/-- One half of a selector with its wildcards struck out; nothing is left of
a half that held only wildcards and blanks. -/
def half? (cs : List Char) : Option (List Char) :=
  let kept := Text.trim (cs.filter (· != '*'))
  if kept.isEmpty then none else some kept

/-- The host and, after the last colon, the port part. -/
def halves (cs : List Char) : List Char × Option (List Char) :=
  match Text.splitAtLast? ':' cs with
  | some (host, port) => (host, some port)
  | none => (cs, none)

/-- Reads a selector, together with the warning for an unreadable port. -/
def read (raw : String) : Selector × Option UnreadablePort :=
  let cs := Text.trim raw.toList
  if cs = "none".toList then (.nothing, none)
  else
    let (host, port) := halves cs
    let network := (half? host).map String.ofList
    match port.bind half? with
    | none => (.matching network none, none)
    | some p =>
      match Text.readPort p with
      | .ok n => (.matching network (some n), none)
      | .error cause =>
        (.matching network none, some ⟨String.ofList cs, String.ofList p, cause⟩)

/-- The selector that a text stands for. -/
def parse (raw : String) : Selector := (read raw).1

-- ============================================================ writing

/-- The written form, with a `*` for each absent half. -/
def render : Selector → String
  | .nothing => "none"
  | .matching network port =>
    network.getD "*" ++ ":" ++ (port.map fun p => p.toNat.repr).getD "*"

end Selector

/-- The wording of the warning. -/
def UnreadablePort.message (w : UnreadablePort) : String :=
  "Selector '" ++ w.selector ++ "' has unparsable port '" ++ w.port ++ "' ("
    ++ w.cause.message ++ "), matching any port"

end TrafficShaping
