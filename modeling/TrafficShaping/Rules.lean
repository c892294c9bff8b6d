/-
Rule sets: what has to be installed on a device to shape one direction of
traffic. A rule set is a tree of queueing disciplines, listed parent first,
and the filters that steer packets into its classes.

    root prio (1:)          its priomap sends every packet to band 1
     ├── 1:1  pass-through  unmatched and excluded traffic
     ├── 1:2  (unused)
     └── 1:3  shaped        traffic that a filter selects
          └── tbf (10:)     bandwidth limit, where there is one
               └── netem (20:)  impairment, where there is one

The inbound tree has the same shape under handles of its own (2:, 30:, 40:)
and stands on the mirror device.
-/
import TrafficShaping.Handle
import TrafficShaping.Policy

namespace TrafficShaping

-- ======================================================== disciplines

/-- Where a discipline hangs: at the device itself, or under a discipline or
class named by its handle. -/
inductive QdiscParent where
  | root
  | handle (h : Handle)
  deriving DecidableEq, Repr

/-- The written form of a parent. -/
def QdiscParent.render : QdiscParent → String
  | .root => "root"
  | .handle h => "parent " ++ h.render

/-- The disciplines in use: a classifier with fixed bands, a token bucket
that limits bandwidth, and a network emulator that delays and drops. -/
inductive QdiscKind where
  | prio
  | tbf
  | netem
  deriving DecidableEq, Repr

/-- The name of a kind. -/
def QdiscKind.render : QdiscKind → String
  | .prio => "prio"
  | .tbf => "tbf"
  | .netem => "netem"

/-- A discipline to install. -/
structure Qdisc where
  device : String
  parent : QdiscParent
  handle : Handle
  kind : QdiscKind
  /-- Parameter words, passed on as they are after the kind. -/
  params : List String
  deriving DecidableEq, Repr

-- ============================================================ filters

/-- One term of a filter; a packet has to meet all of a filter's terms. -/
inductive MatchTerm where
  | sourceNet (net : String)
  | destinationNet (net : String)
  | sourcePort (port : UInt16)
  | destinationPort (port : UInt16)
  /-- Meets every packet. -/
  | all
  deriving DecidableEq, Repr

namespace MatchTerm

/-- The network of every address. -/
def anyNetwork : String := "0.0.0.0/0"

/-- The written form of a term, one space between its words. -/
def render : MatchTerm → String
  | sourceNet net => "ip src " ++ net
  | destinationNet net => "ip dst " ++ net
  | sourcePort port => "ip sport " ++ port.toNat.repr ++ " 0xffff"
  | destinationPort port => "ip dport " ++ port.toNat.repr ++ " 0xffff"
  | all => "u32 0 0"

end MatchTerm

/-- A filter to install: packets that meet its terms go to a class. -/
structure Filter where
  device : String
  /-- The discipline whose packets the filter looks at. -/
  parent : Handle
  /-- Filters with a lower number are tried first. -/
  priority : UInt16
  terms : List MatchTerm
  /-- The class that receives the packets. -/
  flow : Handle
  deriving DecidableEq, Repr

-- ========================================================== rule sets

/-- All that is installed on one device for one direction. -/
structure RuleSet where
  direction : Direction
  device : String
  qdiscs : List Qdisc
  filters : List Filter
  deriving DecidableEq, Repr

namespace RuleSet

/-- The filters that send packets to a class, in order. -/
def filtersTo (r : RuleSet) (flow : Handle) : List Filter :=
  r.filters.filter (·.flow == flow)

/-- The first discipline of a kind. -/
def qdisc? (r : RuleSet) (kind : QdiscKind) : Option Qdisc :=
  r.qdiscs.find? (·.kind == kind)

end RuleSet

/-- A policy in installable form: a rule set for each direction. -/
structure CompiledPolicy where
  outbound : RuleSet
  inbound : RuleSet
  deriving DecidableEq, Repr

namespace CompiledPolicy

/-- The rule set of a direction. -/
def get (c : CompiledPolicy) : Direction → RuleSet
  | .outbound => c.outbound
  | .inbound => c.inbound

/-- The rule sets in the order they are installed. -/
def ruleSets (c : CompiledPolicy) : List RuleSet := Direction.all.map c.get

end CompiledPolicy

end TrafficShaping
