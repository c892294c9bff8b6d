/-
Compilation: from a policy to the rule sets that carry it out.

Compiling is a function of the policy and the compiler's two settings alone,
and both directions are compiled in the same way, each on its own device and
with its own numbering. The rules come in installation order: the root, the
shaping stages under the shaped class, the filters of the excluded ports,
and last the filters of the selected end points.
-/
import TrafficShaping.Numbering

namespace TrafficShaping

/-- The settings of the compiler. -/
structure CompilerConfig where
  /-- How many packets the impairment may hold. -/
  bufferSize : UInt32
  /-- The rate that keeps jittered packets in order: the emulator reorders
  packets only while it has no rate of its own. -/
  reorderRate : String
  deriving DecidableEq, Repr

/-- The settings where the user says nothing. -/
def CompilerConfig.default : CompilerConfig where
  bufferSize := 10000
  reorderRate := "1000gbit"

namespace Compile

-- ========================================================== the stages

/-- The root, whose priority map sends every packet to the pass-through
class. -/
def root (n : Numbering) (device : String) : Qdisc where
  device := device
  parent := .root
  handle := n.root
  kind := .prio
  params := ["bands", Numbering.rootBands.toNat.repr, "priomap"]
    ++ List.replicate 16 (n.passThrough.minor.toNat - 1).repr

/-- The bandwidth limit, under the shaped class. -/
def bandwidth (n : Numbering) (device : String) (params : RawParams) : Qdisc where
  device := device
  parent := .handle n.shaped
  handle := n.bandwidth
  kind := .tbf
  params := params.words

/-- The parameter words of an impairment: the rate that keeps the order comes
first and the queue limit last, so that neither can be overridden by what
the user gave. -/
def impairmentWords (config : CompilerConfig) (reorder : Bool) (params : RawParams) :
    List String :=
  (if reorder then [] else ["rate", config.reorderRate])
    ++ params.words ++ ["limit", config.bufferSize.toNat.repr]

/-- The impairment, under the bandwidth limit where there is one. -/
def impairment (n : Numbering) (device : String) (config : CompilerConfig)
    (limited reorder : Bool) (params : RawParams) : Qdisc where
  device := device
  parent := .handle (n.impairmentParent limited)
  handle := n.impairment
  kind := .netem
  params := impairmentWords config reorder params

/-- The stages of a direction. The limit comes first, so that the impairment
sees traffic that is limited already. -/
def stages (spec : ShapingSpec) (n : Numbering) (device : String)
    (config : CompilerConfig) : List Qdisc :=
  (spec.bandwidth.map (bandwidth n device)).toList
    ++ (spec.impairment.map
        (impairment n device config spec.bandwidth.isSome spec.reorder)).toList

-- ========================================================= the filters

/-- The filters of one excluded port: any packet from it or to it passes
through. -/
def excludedPort (n : Numbering) (device : String) (port : UInt16) : List Filter :=
  [MatchTerm.sourcePort port, MatchTerm.destinationPort port].map fun term =>
    { device := device
      parent := n.root
      priority := n.exclusionPriority
      terms := [.sourceNet MatchTerm.anyNetwork, term]
      flow := n.passThrough }

/-- The filters of the excluded ports, port by port. -/
def exclusions (ports : List UInt16) (n : Numbering) (device : String) : List Filter :=
  ports.flatMap (excludedPort n device)

/-- The end of a packet that a selector speaks about. -/
inductive Side where
  | source
  | destination
  deriving DecidableEq, Repr

/-- The address term of a side. -/
def Side.net : Side → String → MatchTerm
  | .source => .sourceNet
  | .destination => .destinationNet

/-- The port term of a side. -/
def Side.port : Side → UInt16 → MatchTerm
  | .source => .sourcePort
  | .destination => .destinationPort

/-- The terms of a selector at one side of a packet. The address term is
always there, also where the address is free. -/
def terms? (side : Side) : Selector → Option (List MatchTerm)
  | .nothing => none
  | .matching network port =>
    some (side.net (network.getD MatchTerm.anyNetwork) :: (port.map side.port).toList)

/-- The filters of the selected end points. A packet is shaped when either
side is selected, so each side has a filter of its own. -/
def selections (source destination : Selector) (n : Numbering) (device : String) :
    List Filter :=
  [(Side.source, source), (Side.destination, destination)].filterMap fun (side, selector) =>
    (terms? side selector).map fun terms =>
      { device := device
        parent := n.root
        priority := n.selectionPriority
        terms := terms
        flow := n.shaped }

-- ======================================================= the rule sets

/-- The rule set of one direction. -/
def direction (d : Direction) (policy : ShapingPolicy) (config : CompilerConfig) : RuleSet :=
  let n := Numbering.of d
  let device := policy.deviceFor d
  { direction := d
    device := device
    qdiscs := root n device :: stages policy.shaping n device config
    filters := exclusions policy.excludedPorts n device
      ++ selections policy.source policy.destination n device }

end Compile

/-- Compiles a policy for both directions. -/
def compile (policy : ShapingPolicy) (config : CompilerConfig) : CompiledPolicy where
  outbound := Compile.direction .outbound policy config
  inbound := Compile.direction .inbound policy config

end TrafficShaping
