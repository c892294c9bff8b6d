/-
Status: what is installed on the two devices of a policy.

Each device is asked for its disciplines, and where the root of this
library's tree is among them, for the filters there. A device that cannot be
queried is reported as such; only a runner that fails by itself ends the
inquiry.
-/
import TrafficShaping.Json.Rules
import TrafficShaping.Shaper.Step
import TrafficShaping.Command.Catalogue

namespace TrafficShaping

-- ============================================================ reports

/-- What is known of one device. -/
structure DeviceStatus where
  direction : Direction
  device : String
  /-- Whether this library's tree is installed. -/
  active : Bool
  qdiscs : String
  filters : String
  /-- The complaint, where the device could not be queried. -/
  error : Option String
  /-- The complaint, where the disciplines were shown but not the filters. -/
  filtersError : Option String
  deriving DecidableEq, Repr

/-- What is known of both devices. -/
structure StatusReport where
  interface : String
  devices : List DeviceStatus
  deriving DecidableEq, Repr

-- ========================================================= collecting

/-- Whether the disciplines shown include the root of a direction's tree. -/
def Numbering.rootShown (n : Numbering) (shown : String) : Bool :=
  let marker := "qdisc prio " ++ n.root.render ++ " root"
  (shown.toList.splitOnP (· == '\n')).any fun line => marker.toList.isPrefixOf line

namespace DeviceStatus

/-- A device that could not be queried. -/
def unavailable (d : Direction) (device complaint : String) : DeviceStatus :=
  ⟨d, device, false, "", "", some complaint, none⟩

/-- Queries one device. -/
def collect (policy : ShapingPolicy) (d : Direction) : Session DeviceStatus := do
  let n := Numbering.of d
  let device := policy.deviceFor d
  let qdiscs ← Session.issue (← Session.built (Command.showQdiscs device true))
  if !qdiscs.success then
    return unavailable d device qdiscs.stderr
  if !n.rootShown qdiscs.stdout then
    return ⟨d, device, false, qdiscs.stdout, "", none, none⟩
  let filters ← Session.issue (← Session.built (Command.showFilters device n))
  if filters.success then
    return ⟨d, device, true, qdiscs.stdout, filters.stdout, none, none⟩
  else
    return ⟨d, device, true, qdiscs.stdout, "", none, some filters.stderr⟩

end DeviceStatus

namespace StatusReport

/-- Queries both devices. -/
def collect (policy : ShapingPolicy) : Session StatusReport := do
  let devices ← Direction.all.mapM (DeviceStatus.collect policy)
  return ⟨policy.interface, devices⟩

/-- Whether this library's tree is installed on either device. -/
def isActive (r : StatusReport) : Bool := r.devices.any (·.active)

-- ============================================================ display

/-- A text as the last thing on its line, the blanks it ends in cut off. -/
def paragraph (text : String) : String :=
  String.ofList (Text.trimEnd text.toList) ++ "\n"

/-- The lines about one device. -/
def renderDevice (d : DeviceStatus) : String :=
  "\n=== " ++ d.device ++ " (" ++ d.direction.render ++ ") ===\n" ++
    match d.error with
    | some complaint => "unavailable: " ++ complaint ++ "\n"
    | none =>
      "--- qdiscs ---\n" ++ paragraph d.qdiscs ++
        if d.active then
          "--- filters ---\n" ++
            match d.filtersError with
            | some complaint => "unavailable: " ++ complaint ++ "\n"
            | none => paragraph d.filters
        else ""

/-- The report as text. -/
def render (r : StatusReport) : String :=
  "Traffic shaping on " ++ r.interface ++ ": "
    ++ (if r.isActive then "active" else "inactive") ++ "\n"
    ++ String.join (r.devices.map renderDevice)

/-- The report as a JSON value. -/
def toJson (r : StatusReport) : Json :=
  .obj [("interface", .str r.interface), ("devices", .arr (r.devices.map device))]
where
  device (d : DeviceStatus) : Json :=
    .obj [("direction", JsonForm.toJson d.direction), ("device", .str d.device),
      ("active", .bool d.active), ("qdiscs", .str d.qdiscs), ("filters", .str d.filters),
      ("error", JsonForm.toJson d.error), ("filters_error", JsonForm.toJson d.filtersError)]

end StatusReport

end TrafficShaping
