/-
Both directions are compiled alike (`inbound_eq_moved_outbound`).

The builders take every handle from the numbering they are given and every
device from their caller. So they do not tell one numbering from another: the
rules for a numbering whose majors are exchanged, on another device, are the
same rules with their majors exchanged and moved to that device. This holds of
each builder under any exchange whatsoever; that the two directions of a policy
are related in this way is then a fact about their numberings alone.
-/
import TrafficShaping.Proofs.Rules.Tree

namespace TrafficShaping

-- ==================================================== statement vocabulary

/-- A handle under another major. -/
def Handle.renamed (major : UInt16 → UInt16) (h : Handle) : Handle := ⟨major h.major, h.minor⟩

/-- A parent under another major. -/
def QdiscParent.renamed (major : UInt16 → UInt16) : QdiscParent → QdiscParent
  | .root => .root
  | .handle h => .handle (h.renamed major)

/-- The same discipline on another device, its handles renamed. -/
def Qdisc.moved (major : UInt16 → UInt16) (device : String) (q : Qdisc) : Qdisc :=
  { q with device := device, parent := q.parent.renamed major, handle := q.handle.renamed major }

/-- The same filter on another device, its handles renamed. -/
def Filter.moved (major : UInt16 → UInt16) (device : String) (f : Filter) : Filter :=
  { f with device := device, parent := f.parent.renamed major, flow := f.flow.renamed major }

/-- The same rules for another direction, one by one. -/
def RuleSet.moved (d : Direction) (major : UInt16 → UInt16) (device : String) (r : RuleSet) :
    RuleSet where
  direction := d
  device := device
  qdiscs := r.qdiscs.map (Qdisc.moved major device)
  filters := r.filters.map (Filter.moved major device)

/-- The major in the inbound tree that goes with one in the outbound tree. -/
def inboundMajor (m : UInt16) : UInt16 :=
  if m = 0x1 then 0x2 else if m = 0x10 then 0x30 else if m = 0x20 then 0x40 else m

-- =========================================================== numberings

/-- The same numbering for another direction, its handles renamed. -/
def Numbering.renamed (d : Direction) (major : UInt16 → UInt16) (n : Numbering) : Numbering :=
  { n with
    direction := d, root := n.root.renamed major, passThrough := n.passThrough.renamed major,
    shaped := n.shaped.renamed major, bandwidth := n.bandwidth.renamed major,
    impairment := n.impairment.renamed major }

/-- The inbound numbering is the outbound one under its own major. -/
theorem Numbering.of_inbound :
    Numbering.of .inbound = (Numbering.of .outbound).renamed .inbound inboundMajor := by
  decide

-- ========================================================= the builders

namespace Compile

variable (d : Direction) (major : UInt16 → UInt16) (n : Numbering) (device device' : String)

theorem root_renamed :
    root (n.renamed d major) device' = (root n device).moved major device' := rfl

theorem bandwidth_renamed (ps : RawParams) :
    bandwidth (n.renamed d major) device' ps = (bandwidth n device ps).moved major device' := rfl

/-- Where the impairment hangs is settled before its parent is renamed. -/
theorem impairment_renamed (config : CompilerConfig) (limited reorder : Bool) (ps : RawParams) :
    impairment (n.renamed d major) device' config limited reorder ps
      = (impairment n device config limited reorder ps).moved major device' := by
  cases limited <;> rfl

/-- All stages move with the numbering, as each hangs below the one before. -/
theorem stages_renamed (spec : ShapingSpec) (config : CompilerConfig) :
    stages spec (n.renamed d major) device' config
      = (stages spec n device config).map (Qdisc.moved major device') := by
  unfold stages
  rw [List.map_append]
  congr 1
  · cases spec.bandwidth with
    | none => rfl
    | some ps => exact congrArg ([·]) (bandwidth_renamed d major n device device' ps)
  · cases spec.impairment with
    | none => rfl
    | some ps => exact congrArg ([·]) (impairment_renamed d major n device device' config _ _ ps)

theorem exclusions_renamed (ports : List UInt16) :
    exclusions ports (n.renamed d major) device'
      = (exclusions ports n device).map (Filter.moved major device') := by
  unfold exclusions
  rw [List.map_flatMap]
  rfl

theorem selections_renamed (source destination : Selector) :
    selections source destination (n.renamed d major) device'
      = (selections source destination n device).map (Filter.moved major device') := by
  unfold selections
  rw [List.map_filterMap]
  refine List.filterMap_congr fun ⟨side, selector⟩ _ => ?_
  simp only [Option.map_map]
  rfl

/-- Two directions whose numberings differ in their majors alone are compiled to
the same rules up to majors and devices. -/
theorem direction_renamed {d d' : Direction} {major : UInt16 → UInt16}
    (h : Numbering.of d' = (Numbering.of d).renamed d' major) (policy : ShapingPolicy)
    (config : CompilerConfig) :
    direction d' policy config
      = (direction d policy config).moved d' major (policy.deviceFor d') := by
  unfold direction RuleSet.moved
  simp only [h, List.map_cons, List.map_append]
  rw [root_renamed d' major _ (policy.deviceFor d), stages_renamed d' major _ (policy.deviceFor d),
    exclusions_renamed d' major _ (policy.deviceFor d),
    selections_renamed d' major _ (policy.deviceFor d)]

end Compile

-- ======================================================== what is kept

namespace RuleSet

variable (d : Direction) (major : UInt16 → UInt16) (device : String) (r : RuleSet)

/-- Moving rules changes no kind and no parameter of theirs. -/
theorem moved_qdiscs {α : Type} (g : QdiscKind → List String → α) :
    (r.moved d major device).qdiscs.map (fun q => g q.kind q.params)
      = r.qdiscs.map fun q => g q.kind q.params := by
  unfold moved
  rw [List.map_map]
  rfl

theorem moved_filters {α : Type} (g : UInt16 → List MatchTerm → α) :
    (r.moved d major device).filters.map (fun f => g f.priority f.terms)
      = r.filters.map fun f => g f.priority f.terms := by
  unfold moved
  rw [List.map_map]
  rfl

end RuleSet

-- ======================================================== the statement

/-- The inbound rules of a policy are its outbound rules on the mirror device,
with the majors 1, 10 and 20 (which are all there are) renamed to 2, 30 and 40.
Kinds, parameters, priorities and terms are the same, rule by rule; and neither
direction depends on the device of the other. -/
theorem inbound_eq_moved_outbound (policy : ShapingPolicy) (config : CompilerConfig) :
    (compile policy config).inbound
        = (compile policy config).outbound.moved .inbound inboundMajor policy.mirrorDevice
      ∧ (compile policy config).outbound.handles.map (·.major) ⊆ [0x1, 0x10, 0x20]
      ∧ (compile policy config).inbound.qdiscs.map (fun q => (q.kind, q.params))
        = (compile policy config).outbound.qdiscs.map (fun q => (q.kind, q.params))
      ∧ (compile policy config).inbound.filters.map (fun f => (f.priority, f.terms))
        = (compile policy config).outbound.filters.map (fun f => (f.priority, f.terms))
      ∧ (∀ mirror, (compile { policy with mirrorDevice := mirror } config).outbound
        = (compile policy config).outbound)
      ∧ ∀ interface, (compile { policy with interface := interface } config).inbound
        = (compile policy config).inbound := by
  have hmoved : (compile policy config).inbound
      = (compile policy config).outbound.moved .inbound inboundMajor policy.mirrorDevice :=
    Compile.direction_renamed Numbering.of_inbound policy config
  refine ⟨hmoved, fun m hm => ?_, ?_, ?_, fun _ => rfl, fun _ => rfl⟩
  · obtain ⟨h, hh, rfl⟩ := List.mem_map.1 hm
    exact Compile.major_of_mem_handles (d := .outbound) hh
  · rw [hmoved]
    exact RuleSet.moved_qdiscs _ _ _ _ Prod.mk
  · rw [hmoved]
    exact RuleSet.moved_filters _ _ _ _ Prod.mk

end TrafficShaping
