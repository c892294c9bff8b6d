/-
Profiles: parts of a policy, kept in files. Every field of a profile is
optional. Laying a profile over a policy replaces the fields that the profile
has and leaves the others alone; a field that is there but blank takes a
shaping stage away.
-/
import TrafficShaping.Json.Policy

namespace TrafficShaping

/-- A profile. -/
structure Profile where
  description : String
  interface : Option String
  bandwidth : Option String
  impairment : Option String
  source : Option Selector
  destination : Option Selector
  exclude : Option (List UInt16)
  reorder : Option Bool
  deriving DecidableEq, Repr

namespace Profile

/-- The profile that says nothing. -/
def empty : Profile := ⟨"", none, none, none, none, none, none, none⟩

/-- A policy with the fields of a profile laid over it. -/
def applyTo (p : Profile) (policy : ShapingPolicy) : ShapingPolicy :=
  { policy with
    interface := p.interface.getD policy.interface
    shaping :=
      { bandwidth := (p.bandwidth.map RawParams.ofText?).getD policy.shaping.bandwidth
        impairment := (p.impairment.map RawParams.ofText?).getD policy.shaping.impairment
        reorder := p.reorder.getD policy.shaping.reorder }
    source := p.source.getD policy.source
    destination := p.destination.getD policy.destination
    excludedPorts := p.exclude.getD policy.excludedPorts }

-- ============================================================= fields

/-- The fields of a profile. -/
inductive Field where
  | description
  | interface
  | bandwidth
  | impairment
  | source
  | destination
  | exclude
  | reorder
  deriving DecidableEq, Repr

namespace Field

/-- All fields, in the order in which they are listed. -/
def all : List Field :=
  [description, interface, bandwidth, impairment, source, destination, exclude, reorder]

/-- The name under which a field is written. -/
def name : Field → String
  | description => "description"
  | interface => "interface"
  | bandwidth => "bandwidth"
  | impairment => "impairment"
  | source => "from"
  | destination => "to"
  | exclude => "exclude"
  | reorder => "reorder"

/-- The field of a name. -/
def ofName? (name : String) : Option Field := all.find? (·.name == name)

end Field

end Profile

-- ========================================================== JSON form

open Json in
/-- A profile is a record that refuses members it does not know. Its
description may be missing, but is not null. -/
instance : JsonForm Profile where
  toJson p := .obj [("description", toJson p.description), ("interface", toJson p.interface),
    ("bandwidth", toJson p.bandwidth), ("impairment", toJson p.impairment),
    ("from", toJson p.source), ("to", toJson p.destination), ("exclude", toJson p.exclude),
    ("reorder", toJson p.reorder)]
  ofJson? j := do
    if let .obj fields := j then
      if fields.any fun f => (Profile.Field.ofName? f.1).isNone then none
    let [description, interface, bandwidth, impairment, source, destination, exclude, reorder] ←
      j.members? (Profile.Field.all.map Profile.Field.name) | none
    return ⟨← (description.map ofJson?).getD (some ""), ← allow interface, ← allow bandwidth,
      ← allow impairment, ← allow source, ← allow destination, ← allow exclude,
      ← allow reorder⟩

end TrafficShaping
