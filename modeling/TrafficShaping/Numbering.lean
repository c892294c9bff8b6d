/-
The numbering: which handles and priorities each direction's rules carry.

The numbers are fixed, so that a tree can be recognised and removed later
without remembering it, and the two directions share none of them.
-/
import TrafficShaping.Rules

namespace TrafficShaping

/-- The handles and priorities of one direction. -/
structure Numbering where
  direction : Direction
  root : Handle
  /-- The class of unmatched and excluded traffic. -/
  passThrough : Handle
  /-- The class whose traffic is shaped. -/
  shaped : Handle
  bandwidth : Handle
  impairment : Handle
  /-- Excluded ports are looked at first. -/
  exclusionPriority : UInt16
  selectionPriority : UInt16
  deriving DecidableEq, Repr

namespace Numbering

/-- The number of bands at the root. -/
def rootBands : UInt16 := 3

/-- The numbering of a tree with these majors: band 1 passes through and
band 3 is shaped. -/
def ofMajors (direction : Direction) (root bandwidth impairment : UInt16) : Numbering where
  direction := direction
  root := Handle.qdisc root
  passThrough := (Handle.qdisc root).child 1
  shaped := (Handle.qdisc root).child 3
  bandwidth := Handle.qdisc bandwidth
  impairment := Handle.qdisc impairment
  exclusionPriority := 1
  selectionPriority := 2

/-- The numbering of a direction. -/
def of : Direction → Numbering
  | .outbound => ofMajors .outbound 0x1 0x10 0x20
  | .inbound => ofMajors .inbound 0x2 0x30 0x40

/-- What the impairment hangs under: the bandwidth limit where there is one,
else the shaped class itself. -/
def impairmentParent (n : Numbering) (limited : Bool) : Handle :=
  if limited then n.bandwidth else n.shaped

/-- The handles of every discipline a direction may install. -/
def qdiscHandles (n : Numbering) : List Handle := [n.root, n.bandwidth, n.impairment]

end Numbering

end TrafficShaping
