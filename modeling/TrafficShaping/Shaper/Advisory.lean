/-
Advisories: what is said, without failing, when jittered packets may be
reordered although they should not be. The rate that keeps them in order is
given to the network emulator, and some of its builds ignore it; whether it
took can only be seen afterwards, in what the tool shows.
-/
import TrafficShaping.Fault
import TrafficShaping.Text.Blank
import TrafficShaping.Text.Matches

namespace TrafficShaping

/-- Why packets on a device may be reordered. -/
inductive Advisory where
  /-- An emulator is installed without a rate. -/
  | rateIgnored (device : String)
  /-- The device could not be queried. -/
  | unverified (device cause : String)
  deriving DecidableEq, Repr

namespace Advisory

/-- The wording of an advisory. -/
def message : Advisory → String
  | rateIgnored device =>
    "netem on " ++ device ++ " was installed without a rate; this kernel/iproute2 ignores "
      ++ "the reorder workaround, so jittered packets will be reordered"
  | unverified device cause =>
    "could not verify reorder workaround on " ++ device ++ ": " ++ cause

/-- The line at the front of a text, where it shows an emulator, with the
number of characters it takes up. -/
def emulatorLine? (cs : List Char) : Option (List Char × Nat) :=
  if "qdisc netem ".toList.isPrefixOf cs then
    let line := cs.takeWhile (· != '\n')
    some (line, line.length)
  else none

/-- Whether a line gives no rate. -/
def lacksRate (line : List Char) : Bool := !(Text.words line).contains "rate".toList

/-- The advisory for a device whose disciplines are shown like this: some
line shows an emulator without a rate. -/
def ofShown? (device shown : String) : Option Advisory :=
  if (Text.lineMatches emulatorLine? shown.toList).any lacksRate then some (.rateIgnored device)
  else none

end Advisory

end TrafficShaping
