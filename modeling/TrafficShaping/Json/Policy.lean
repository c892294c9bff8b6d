/-
The JSON forms of policies. A selector is written as its text, and raw
parameters as theirs; a text read as raw parameters is taken as it stands.
-/
import TrafficShaping.Json.Form
import TrafficShaping.Policy

namespace TrafficShaping

open Json

instance : JsonForm Selector where
  toJson s := .str s.render
  ofJson? j := (ofJson? j).map Selector.parse

instance : JsonForm RawParams where
  toJson p := .str p.text
  ofJson? j := (ofJson? j).map RawParams.mk

instance : JsonForm ShapingSpec where
  toJson s := .obj [("bandwidth_limit", toJson s.bandwidth),
    ("impairment", toJson s.impairment), ("reorder_on_jitter", toJson s.reorder)]
  ofJson? j := do
    let [bandwidth, impairment, reorder] ←
      j.members? ["bandwidth_limit", "impairment", "reorder_on_jitter"] | none
    return ⟨← allow bandwidth, ← allow impairment, ← need reorder⟩

instance : JsonForm ShapingPolicy where
  toJson p := .obj [("interface", toJson p.interface),
    ("mirror_device", toJson p.mirrorDevice), ("shaping", toJson p.shaping),
    ("from", toJson p.source), ("to", toJson p.destination),
    ("exclude_ports", toJson p.excludedPorts)]
  ofJson? j := do
    let [interface, mirrorDevice, shaping, source, destination, excludedPorts] ←
      j.members? ["interface", "mirror_device", "shaping", "from", "to", "exclude_ports"]
      | none
    return ⟨← need interface, ← need mirrorDevice, ← need shaping,
      ← need source, ← need destination, ← need excludedPorts⟩

end TrafficShaping
