/-
The commands besides those that install rules: redirecting incoming traffic
to the mirror device, removing what was installed, and asking what is there.

Traffic control can shape only what leaves a device. So incoming traffic is
redirected to a virtual device and shaped on its way out of that: the device
is created, brought up, and fed by a filter on the interface's ingress hook.
-/
import TrafficShaping.Command.Draft
import TrafficShaping.Numbering

namespace TrafficShaping.Command

-- ======================================================== redirection

/-- The handle under which the ingress hook is addressed. -/
def ingressHandle : Handle := Handle.qdisc 0xffff

/-- Creates the mirror device. -/
def createMirror (mirror : String) : Command :=
  ip ["link", "add", mirror, "type", "ifb"]

/-- Brings the mirror device up and sends it all that arrives at the
interface. -/
def redirect (interface mirror : String) : Except DraftError (List Command) := do
  let up := ip ["link", "set", "dev", mirror, "up"]
  let hook ← qdisc [.operation .add, .device interface, .target .ingress]
  let feed ← filter [.operation .add, .device interface, .target (.parent ingressHandle),
    .terms [.all], .extra ["action", "mirred", "egress", "redirect", "dev", mirror]]
  return [up, hook, feed]

/-- Removes the redirection and the mirror device. -/
def removeRedirect (interface mirror : String) : Except DraftError (List Command) := do
  let hook ← qdisc [.operation .delete, .device interface, .target .ingress]
  return [hook, ip ["link", "del", mirror]]

/-- Removes a device's tree of disciplines. -/
def removeRoot (device : String) : Except DraftError Command :=
  qdisc [.operation .delete, .device device, .target .root]

-- ============================================================ queries

/-- Asks for the disciplines of a device. -/
def showQdiscs (device : String) (stats : Bool) : Except DraftError Command :=
  qdisc ([.operation .show, .device device] ++ if stats then [.stats] else [])

/-- Asks for the filters at the root of a direction's tree. -/
def showFilters (device : String) (n : Numbering) : Except DraftError Command :=
  filter [.operation .show, .device device, .target (.parent n.root), .stats]

/-- Asks which offload features of an interface are on. -/
def showFeatures (interface : String) : Command :=
  ethtool ["-k", interface]

end TrafficShaping.Command
