/-
The JSON forms of commands and of the choices that drafts are made of.
-/
import TrafficShaping.Json.Rules
import TrafficShaping.Command.Draft

namespace TrafficShaping

open Json

instance : JsonForm Program where
  toJson p := .str p.render
  ofJson? j :=
    match j.constant? with
    | some "tc" => some .tc
    | some "ip" => some .ip
    | some "ethtool" => some .ethtool
    | _ => none

instance : JsonForm TcObject where
  toJson
    | .qdisc => .str "Qdisc"
    | .filter => .str "Filter"
  ofJson? j :=
    match j.constant? with
    | some "Qdisc" => some .qdisc
    | some "Filter" => some .filter
    | _ => none

instance : JsonForm TcOperation where
  toJson
    | .add => .str "Add"
    | .delete => .str "Delete"
    | .show => .str "Show"
  ofJson? j :=
    match j.constant? with
    | some "Add" => some .add
    | some "Delete" => some .delete
    | some "Show" => some .show
    | _ => none

instance : JsonForm TcTarget where
  toJson
    | .root => .str "Root"
    | .ingress => .str "Ingress"
    | .parent h => .obj [("Parent", toJson h)]
  ofJson? j :=
    match j.constant?, j.choice? with
    | some "Root", _ => some .root
    | some "Ingress", _ => some .ingress
    | _, some ("Parent", some h) => (ofJson? h).map .parent
    | _, _ => none

instance : JsonForm Command where
  toJson c := .obj [("program", toJson c.program), ("args", toJson c.args)]
  ofJson? j := do
    let [program, args] ← j.members? ["program", "args"] | none
    return ⟨← need program, ← need args⟩

end TrafficShaping
