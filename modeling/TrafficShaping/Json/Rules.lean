/-
The JSON forms of rule sets and of everything in them.
-/
import TrafficShaping.Json.Form
import TrafficShaping.Rules

namespace TrafficShaping

open Json

instance : JsonForm Direction where
  toJson d := .str d.render
  ofJson? j :=
    match j.constant? with
    | some "outbound" => some .outbound
    | some "inbound" => some .inbound
    | _ => none

instance : JsonForm Handle where
  toJson h := .obj [("major", toJson h.major), ("minor", toJson h.minor)]
  ofJson? j := do
    let [major, minor] ← j.members? ["major", "minor"] | none
    return ⟨← need major, ← need minor⟩

instance : JsonForm QdiscParent where
  toJson
    | .root => .str "root"
    | .handle h => .obj [("handle", toJson h)]
  ofJson? j :=
    match j.constant?, j.choice? with
    | some "root", _ => some .root
    | _, some ("handle", some h) => (ofJson? h).map .handle
    | _, _ => none

instance : JsonForm QdiscKind where
  toJson k := .str k.render
  ofJson? j :=
    match j.constant? with
    | some "prio" => some .prio
    | some "tbf" => some .tbf
    | some "netem" => some .netem
    | _ => none

instance : JsonForm MatchTerm where
  toJson
    | .sourceNet net => .obj [("src_net", toJson net)]
    | .destinationNet net => .obj [("dst_net", toJson net)]
    | .sourcePort port => .obj [("src_port", toJson port)]
    | .destinationPort port => .obj [("dst_port", toJson port)]
    | .all => .str "all"
  ofJson? j :=
    match j.constant?, j.choice? with
    | some "all", _ => some .all
    | _, some ("src_net", some net) => (ofJson? net).map .sourceNet
    | _, some ("dst_net", some net) => (ofJson? net).map .destinationNet
    | _, some ("src_port", some port) => (ofJson? port).map .sourcePort
    | _, some ("dst_port", some port) => (ofJson? port).map .destinationPort
    | _, _ => none

instance : JsonForm Qdisc where
  toJson q := .obj [("device", toJson q.device), ("parent", toJson q.parent),
    ("handle", toJson q.handle), ("kind", toJson q.kind), ("params", toJson q.params)]
  ofJson? j := do
    let [device, parent, handle, kind, params] ←
      j.members? ["device", "parent", "handle", "kind", "params"] | none
    return ⟨← need device, ← need parent, ← need handle, ← need kind,
      ← need params⟩

instance : JsonForm Filter where
  toJson f := .obj [("device", toJson f.device), ("parent", toJson f.parent),
    ("priority", toJson f.priority), ("criteria", toJson f.terms), ("flow", toJson f.flow)]
  ofJson? j := do
    let [device, parent, priority, terms, flow] ←
      j.members? ["device", "parent", "priority", "criteria", "flow"] | none
    return ⟨← need device, ← need parent, ← need priority, ← need terms,
      ← need flow⟩

instance : JsonForm RuleSet where
  toJson r := .obj [("direction", toJson r.direction), ("device", toJson r.device),
    ("qdiscs", toJson r.qdiscs), ("filters", toJson r.filters)]
  ofJson? j := do
    let [direction, device, qdiscs, filters] ←
      j.members? ["direction", "device", "qdiscs", "filters"] | none
    return ⟨← need direction, ← need device, ← need qdiscs, ← need filters⟩

instance : JsonForm CompiledPolicy where
  toJson c := .obj [("outbound", toJson c.outbound), ("inbound", toJson c.inbound)]
  ofJson? j := do
    let [outbound, inbound] ← j.members? ["outbound", "inbound"] | none
    return ⟨← need outbound, ← need inbound⟩

end TrafficShaping
