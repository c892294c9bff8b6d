/-
Handles: the 16:16 bit names that traffic control gives to queueing
disciplines and to the classes inside them.

A handle is written in hexadecimal, major before minor, with a zero minor
left out: `10:` is a discipline, `10:3` a class inside it.
-/
import TrafficShaping.Text.Numeral

namespace TrafficShaping

/-- The name of a discipline (minor zero) or of a class inside one. -/
structure Handle where
  major : UInt16
  minor : UInt16
  deriving DecidableEq, Repr

namespace Handle

/-- The handle of a discipline. -/
def qdisc (major : UInt16) : Handle := ⟨major, 0⟩

/-- Class `minor` inside the discipline of this major. -/
def child (h : Handle) (minor : UInt16) : Handle := ⟨h.major, minor⟩

/-- Whether the handle names a discipline rather than a class. -/
def isQdisc (h : Handle) : Bool := h.minor == 0

/-- Handles are ordered by major, then by minor. -/
def order (a b : Handle) : Ordering :=
  (compare a.major b.major).then (compare a.minor b.minor)

/-- The written form: hexadecimal, a zero minor left out. -/
def render (h : Handle) : String :=
  Text.hex h.major.toNat ++ ":" ++ (if h.isQdisc then "" else Text.hex h.minor.toNat)

end Handle

end TrafficShaping
