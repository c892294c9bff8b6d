/-
Policies: what a user asks for. A policy names an interface, the device that
its incoming traffic is redirected to, the stages to shape with, which end
points to shape, and the ports to leave alone.
-/
import TrafficShaping.RawParams
import TrafficShaping.Selector

namespace TrafficShaping

-- ========================================================= directions

/-- Traffic leaving the interface, or arriving at it. -/
inductive Direction where
  | outbound
  | inbound
  deriving DecidableEq, Repr

namespace Direction

/-- Both directions, in the order they are built, installed and shown. -/
def all : List Direction := [outbound, inbound]

/-- The name of a direction. -/
def render : Direction → String
  | outbound => "outbound"
  | inbound => "inbound"

end Direction

-- ============================================================= stages

/-- The stages to install on the shaped branch. -/
structure ShapingSpec where
  /-- Parameters of the bandwidth limit. -/
  bandwidth : Option RawParams
  /-- Parameters of the delay, jitter and loss. -/
  impairment : Option RawParams
  /-- Let jittered packets overtake each other. -/
  reorder : Bool
  deriving DecidableEq, Repr

namespace ShapingSpec

/-- No stage at all. -/
def none : ShapingSpec := ⟨.none, .none, false⟩

/-- Whether there is no stage to install. -/
def isEmpty (s : ShapingSpec) : Bool := s.bandwidth.isNone && s.impairment.isNone

/-- Whether the impairment gets a rate of its own, which keeps jittered
packets in order. -/
def keepsOrder (s : ShapingSpec) : Bool := s.impairment.isSome && !s.reorder

end ShapingSpec

-- =========================================================== policies

/-- What to shape, where, and what to leave alone. -/
structure ShapingPolicy where
  interface : String
  /-- The device that incoming traffic is redirected to and shaped on. -/
  mirrorDevice : String
  shaping : ShapingSpec
  /-- The sources whose packets are shaped. -/
  source : Selector
  /-- The destinations whose packets are shaped. -/
  destination : Selector
  /-- The ports that are never shaped, as entered. -/
  excludedPorts : List UInt16
  deriving DecidableEq, Repr

namespace ShapingPolicy

/-- What holds where the user says nothing: every destination is shaped,
except for port 22. -/
def default : ShapingPolicy where
  interface := "eth0"
  mirrorDevice := "ifb0"
  shaping := ShapingSpec.none
  source := .nothing
  destination := Selector.all
  excludedPorts := [22]

/-- The device on which a direction is shaped. -/
def deviceFor (p : ShapingPolicy) : Direction → String
  | .outbound => p.interface
  | .inbound => p.mirrorDevice

end ShapingPolicy

end TrafficShaping
