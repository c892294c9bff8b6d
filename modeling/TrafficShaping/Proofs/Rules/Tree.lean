/-
Every compiled rule set is a well-formed tree of disciplines with its filters
at the root (`compile_isTree`).

The shape is said on the rule set alone (`RuleSet.IsTree`): which discipline
hangs where, which handles are used, where the shaped class leads, and what
filters may look like. Nothing in it refers to the builders, except that the
handles and classes are those of the direction's numbering.
-/
import Mathlib.Data.List.Nodup
import TrafficShaping.Proofs.Rules.Compiled

namespace TrafficShaping

-- ==================================================== statement vocabulary

/-- A discipline carries another that hangs at its handle or at a class inside
it. -/
def Qdisc.Carries (p q : Qdisc) : Prop :=
  ∃ h, q.parent = .handle h ∧ h.major = p.handle.major

/-- Every discipline after the first is carried by one strictly before it. -/
def Grounded (qs : List Qdisc) : Prop :=
  ∀ i (hi : i < qs.length), 0 < i → ∃ p ∈ qs.take i, p.Carries qs[i]

/-- The number of bands that a discipline's parameters give it. -/
def Qdisc.bands? (q : Qdisc) : Option Nat :=
  match q.params.dropWhile (· != "bands") with
  | _ :: count :: _ => (Text.readNumeral 65535 count.toList).toOption
  | _ => none

/-- The handle a discipline hangs at, unless that is the device itself. -/
def QdiscParent.handle? : QdiscParent → Option Handle
  | .root => none
  | .handle h => some h

/-- The other direction. -/
def Direction.opposite : Direction → Direction
  | outbound => inbound
  | inbound => outbound

namespace RuleSet

/-- Every handle that a rule set mentions, as a name or as an attachment. -/
def handles (r : RuleSet) : List Handle :=
  r.qdiscs.map (·.handle) ++ r.qdiscs.filterMap (·.parent.handle?)
    ++ r.filters.flatMap fun f => [f.parent, f.flow]

/-- The disciplines met on the way down from a handle: one that hangs there,
then one that hangs at its handle, and so on until nothing does. -/
inductive WayDown (r : RuleSet) : Handle → List Qdisc → Prop where
  | stop {h : Handle} (hnone : ∀ q ∈ r.qdiscs, q.parent ≠ .handle h) : WayDown r h []
  | next {h : Handle} {q : Qdisc} {qs : List Qdisc} (hmem : q ∈ r.qdiscs)
      (hparent : q.parent = .handle h) (hrest : WayDown r q.handle qs) : WayDown r h (q :: qs)

/-- A well-formed tree for a direction of a policy, beside the rule set `other`
of the opposite direction. -/
structure IsTree (policy : ShapingPolicy) (d : Direction) (r other : RuleSet) : Prop where
  /-- The first discipline hangs at the device, and only that one does. -/
  root_first : ∃ q rest, r.qdiscs = q :: rest ∧ q.parent = .root ∧ ∀ p ∈ rest, p.parent ≠ .root
  /-- Every later one is carried by one that comes strictly before it. -/
  grounded : Grounded r.qdiscs
  /-- Disciplines are not named like classes, -/
  handles_isQdisc : ∀ q ∈ r.qdiscs, q.handle.isQdisc = true
  /-- no two share a name, -/
  handles_nodup : (r.qdiscs.map (·.handle)).Nodup
  /-- their names are the ones set aside for the direction, -/
  handles_numbered : ∀ q ∈ r.qdiscs, q.handle ∈ (Numbering.of d).qdiscHandles
  /-- and nothing in the opposite direction uses a name with their major. -/
  handles_apart : ∀ q ∈ r.qdiscs, ∀ h ∈ other.handles, h.major ≠ q.handle.major
  /-- No two disciplines hang at the same place. -/
  parents_nodup : (r.qdiscs.map (·.parent)).Nodup
  /-- The one way down from the shaped class takes in every later discipline: -/
  wayDown_shaped : ∀ qs, r.WayDown (Numbering.of d).shaped qs ↔ qs = r.qdiscs.tail
  /-- the limit where there is one, then the impairment where there is one. -/
  kinds : r.qdiscs.map (·.kind) = QdiscKind.prio
    :: ((if policy.shaping.bandwidth.isSome then [QdiscKind.tbf] else [])
      ++ if policy.shaping.impairment.isSome then [QdiscKind.netem] else [])
  /-- Filters hang at the root and lead to a class within its bands. -/
  filters_inside : ∃ q rest bands, r.qdiscs = q :: rest ∧ q.bands? = some bands
    ∧ ∀ f ∈ r.filters, f.parent = q.handle ∧ f.flow.major = q.handle.major
      ∧ 1 ≤ f.flow.minor.toNat ∧ f.flow.minor.toNat ≤ bands
  /-- They lead to the pass-through class or to the shaped one, -/
  filters_flow : ∀ f ∈ r.filters,
    f.flow = (Numbering.of d).passThrough ∨ f.flow = (Numbering.of d).shaped
  /-- the former in front of the latter and at a lower number, -/
  filters_ordered : ∀ i j (hi : i < r.filters.length) (hj : j < r.filters.length),
    r.filters[i].flow = (Numbering.of d).passThrough →
    r.filters[j].flow = (Numbering.of d).shaped →
    i < j ∧ r.filters[i].priority < r.filters[j].priority
  /-- and begin with an address. -/
  filters_address : ∀ f ∈ r.filters, ∃ net rest,
    f.terms = .sourceNet net :: rest ∨ f.terms = .destinationNet net :: rest
  /-- Everything is on the direction's device. -/
  direction_eq : r.direction = d
  device_eq : r.device = policy.deviceFor d
  qdiscs_device : ∀ q ∈ r.qdiscs, q.device = policy.deviceFor d
  filters_device : ∀ f ∈ r.filters, f.device = policy.deviceFor d

end RuleSet

namespace Compile

variable (policy : ShapingPolicy) (config : CompilerConfig) (d : Direction)

-- ================================================ handles and parents

/-- What is read off the disciplines one by one comes to a value for the root
and one for each stage there is, where it does not depend on the stage's
parameters. -/
theorem map_qdiscs {α : Type} {g : Qdisc → α} {b c : α}
    (hlimit : ∀ ps, g (bandwidth (Numbering.of d) (policy.deviceFor d) ps) = b)
    (himpairment : ∀ ps, g (impairment (Numbering.of d) (policy.deviceFor d) config
      policy.shaping.bandwidth.isSome policy.shaping.reorder ps) = c) :
    (direction d policy config).qdiscs.map g = g (root (Numbering.of d) (policy.deviceFor d))
      :: ((if policy.shaping.bandwidth.isSome then [b] else [])
        ++ if policy.shaping.impairment.isSome then [c] else []) := by
  simp only [direction, stages, List.map_cons, List.map_append]
  cases hb : policy.shaping.bandwidth with
  | none =>
      cases policy.shaping.impairment with
      | none => rfl
      | some is =>
          have hi := himpairment is
          rw [hb] at hi
          simpa using hi
  | some bs =>
      cases policy.shaping.impairment with
      | none => simp [hlimit]
      | some is =>
          have hi := himpairment is
          rw [hb] at hi
          simpa [hlimit] using hi

/-- The handles in use: the root's, and those of the stages there are. -/
theorem handles_eq :
    (direction d policy config).qdiscs.map (·.handle) = (Numbering.of d).root
      :: ((if policy.shaping.bandwidth.isSome then [(Numbering.of d).bandwidth] else [])
        ++ if policy.shaping.impairment.isSome then [(Numbering.of d).impairment] else []) :=
  map_qdiscs policy config d (fun _ => rfl) (fun _ => rfl)

/-- The places in use: the device, and those that the stages hang at. -/
theorem parents_eq :
    (direction d policy config).qdiscs.map (·.parent) = QdiscParent.root
      :: ((if policy.shaping.bandwidth.isSome then
            [QdiscParent.handle (Numbering.of d).shaped] else [])
        ++ if policy.shaping.impairment.isSome then
            [QdiscParent.handle
              ((Numbering.of d).impairmentParent policy.shaping.bandwidth.isSome)] else []) :=
  map_qdiscs policy config d (fun _ => rfl) (fun _ => rfl)

/-- The kinds of the qdiscs: the root's, and those of the stages that the policy
asks for. -/
theorem kinds_eq :
    (direction d policy config).qdiscs.map (·.kind) = QdiscKind.prio
      :: ((if policy.shaping.bandwidth.isSome then [QdiscKind.tbf] else [])
        ++ if policy.shaping.impairment.isSome then [QdiscKind.netem] else []) :=
  map_qdiscs policy config d (fun _ => rfl) (fun _ => rfl)

theorem nodup_handles : ((direction d policy config).qdiscs.map (·.handle)).Nodup := by
  rw [handles_eq]
  cases policy.shaping.bandwidth.isSome <;> cases policy.shaping.impairment.isSome <;>
    cases d <;> decide

theorem nodup_parents : ((direction d policy config).qdiscs.map (·.parent)).Nodup := by
  rw [parents_eq]
  cases policy.shaping.bandwidth.isSome <;> cases policy.shaping.impairment.isSome <;>
    cases d <;> decide

variable {policy config d}

/-- Every discipline has a handle that is set aside for its direction. -/
theorem handle_mem_qdiscHandles {q : Qdisc} (hq : q ∈ (direction d policy config).qdiscs) :
    q.handle ∈ (Numbering.of d).qdiscHandles := by
  have hmem : q.handle ∈ (direction d policy config).qdiscs.map (·.handle) :=
    List.mem_map_of_mem hq
  rw [handles_eq] at hmem
  simp only [Numbering.qdiscHandles, List.mem_cons, List.not_mem_nil, or_false]
  rcases List.mem_cons.1 hmem with hroot | hstage
  · exact Or.inl hroot
  · rcases List.mem_append.1 hstage with h | h
    · split at h
      · exact Or.inr (Or.inl (List.mem_singleton.1 h))
      · cases h
    · split at h
      · exact Or.inr (Or.inr (List.mem_singleton.1 h))
      · cases h

/-- Every discipline is on its direction's device. -/
theorem qdisc_device {q : Qdisc} (hq : q ∈ (direction d policy config).qdiscs) :
    q.device = policy.deviceFor d := by
  rcases mem_qdiscs.1 hq with rfl | hstage
  · rfl
  · rcases mem_stages.1 hstage with ⟨ps, -, rfl⟩ | ⟨ps, -, rfl⟩ <;> rfl

/-- No handle set aside for a direction is that of a class. -/
theorem isQdisc_of_mem_qdiscHandles {h : Handle} (hmem : h ∈ (Numbering.of d).qdiscHandles) :
    h.isQdisc = true := by
  have hall : ∀ h ∈ (Numbering.of d).qdiscHandles, h.isQdisc = true := by
    cases d <;> decide
  exact hall h hmem

-- ======================================================== the way down

/-- A list of disciplines stays grounded when it grows by one that an earlier
one carries. -/
theorem grounded_concat {qs : List Qdisc} {p q : Qdisc} (h : Grounded qs) (hp : p ∈ qs)
    (hcarries : p.Carries q) : Grounded (qs ++ [q]) := by
  intro i hi hpos
  rw [List.length_append, List.length_singleton] at hi
  rcases Nat.lt_or_ge i qs.length with hlt | hge
  · obtain ⟨p', hp', hc⟩ := h i hlt hpos
    refine ⟨p', ?_, ?_⟩
    · rwa [List.take_append_of_le_length (Nat.le_of_lt hlt)]
    · rwa [List.getElem_append_left hlt]
  · obtain rfl : i = qs.length := by omega
    refine ⟨p, ?_, ?_⟩
    · rwa [List.take_left]
    · rwa [List.getElem_concat_length rfl]

/-- A discipline in a grounded list is carried by one of those before it. -/
theorem carrier_of_grounded {pre rest : List Qdisc} {q : Qdisc} (hpre : 0 < pre.length)
    (h : Grounded (pre ++ q :: rest)) : ∃ p ∈ pre, p.Carries q := by
  have hlength : pre.length < (pre ++ q :: rest).length := by simp
  obtain ⟨p, hp, hcarries⟩ := h pre.length hlength hpre
  have hget : (pre ++ q :: rest)[pre.length] = q := by simp
  rw [List.take_left] at hp
  rw [hget] at hcarries
  exact ⟨p, hp, hcarries⟩

theorem grounded_singleton (q : Qdisc) : Grounded [q] := by
  intro i hi hpos
  simp at hi
  omega

/-- The limit hangs at the root, and the impairment at the limit or, where
there is none, at the root as well. -/
theorem grounded_qdiscs : Grounded (direction d policy config).qdiscs := by
  simp only [direction, stages]
  cases policy.shaping.bandwidth with
  | none =>
      cases policy.shaping.impairment with
      | none => exact grounded_singleton _
      | some ps =>
          exact grounded_concat (grounded_singleton _) (List.mem_singleton_self _)
            ⟨_, rfl, (Numbering.class_inside (Or.inr rfl)).1⟩
  | some bs =>
      have hlimit : Grounded [root (Numbering.of d) (policy.deviceFor d),
          bandwidth (Numbering.of d) (policy.deviceFor d) bs] :=
        grounded_concat (grounded_singleton _) (List.mem_singleton_self _)
          ⟨_, rfl, (Numbering.class_inside (Or.inr rfl)).1⟩
      cases policy.shaping.impairment with
      | none => exact hlimit
      | some ps =>
          exact grounded_concat hlimit (List.mem_cons_of_mem _ (List.mem_singleton_self _))
            ⟨_, rfl, rfl⟩

/-- Where no two disciplines hang at the same place, there is one way down
from a handle at most. -/
theorem wayDown_unique {r : RuleSet} (hnodup : (r.qdiscs.map (·.parent)).Nodup) {h : Handle}
    {qs qs' : List Qdisc} (hway : r.WayDown h qs) (hway' : r.WayDown h qs') : qs = qs' := by
  induction hway generalizing qs' with
  | stop hnone =>
      cases hway' with
      | stop => rfl
      | next hmem hparent hrest => exact absurd hparent (hnone _ hmem)
  | next hmem hparent hrest ih =>
      cases hway' with
      | stop hnone => exact absurd hparent (hnone _ hmem)
      | next hmem' hparent' hrest' =>
          obtain rfl := List.inj_on_of_nodup_map hnodup hmem hmem' (hparent.trans hparent'.symm)
          rw [ih hrest']

/-- A way down ends where no discipline hangs. -/
theorem stop_of_not_mem {r : RuleSet} {h : Handle}
    (hnot : QdiscParent.handle h ∉ r.qdiscs.map (·.parent)) : r.WayDown h [] := by
  refine .stop fun q hq hparent => hnot ?_
  rw [← hparent]
  exact List.mem_map_of_mem hq

/-- Nothing hangs at the impairment. -/
theorem impairment_free :
    QdiscParent.handle (Numbering.of d).impairment
      ∉ (direction d policy config).qdiscs.map (·.parent) := by
  rw [parents_eq]
  cases policy.shaping.bandwidth.isSome <;> cases policy.shaping.impairment.isSome <;>
    cases d <;> decide

/-- Nothing hangs at the limit where there is no impairment. -/
theorem bandwidth_free (h : policy.shaping.impairment = none) :
    QdiscParent.handle (Numbering.of d).bandwidth
      ∉ (direction d policy config).qdiscs.map (·.parent) := by
  rw [parents_eq, h]
  cases policy.shaping.bandwidth.isSome <;> cases d <;> decide

/-- The shaped class leads through all the stages. -/
theorem wayDown_stages :
    (direction d policy config).WayDown (Numbering.of d).shaped
      (stages policy.shaping (Numbering.of d) (policy.deviceFor d) config) := by
  have hstage {q : Qdisc} (hq : q ∈ stages policy.shaping (Numbering.of d)
      (policy.deviceFor d) config) : q ∈ (direction d policy config).qdiscs :=
    mem_qdiscs.2 (Or.inr hq)
  cases hlimit : policy.shaping.bandwidth with
  | none =>
      cases himpair : policy.shaping.impairment with
      | none =>
          simp only [stages, hlimit, himpair]
          refine stop_of_not_mem ?_
          rw [parents_eq, hlimit, himpair]
          cases d <;> decide
      | some ps =>
          simp only [stages, hlimit, himpair]
          refine .next (hstage ?_) rfl (stop_of_not_mem impairment_free)
          exact mem_stages.2 (Or.inr ⟨ps, himpair, by rw [hlimit]⟩)
  | some bs =>
      cases himpair : policy.shaping.impairment with
      | none =>
          simp only [stages, hlimit, himpair]
          refine .next (hstage ?_) rfl (stop_of_not_mem (bandwidth_free himpair))
          exact mem_stages.2 (Or.inl ⟨bs, hlimit, rfl⟩)
      | some ps =>
          simp only [stages, hlimit, himpair]
          refine .next (hstage ?_) rfl (.next (hstage ?_) rfl (stop_of_not_mem impairment_free))
          · exact mem_stages.2 (Or.inl ⟨bs, hlimit, rfl⟩)
          · exact mem_stages.2 (Or.inr ⟨ps, himpair, by rw [hlimit]⟩)

-- ========================================================= the filters

/-- What every filter of a rule set has in common, exclusion or selection. -/
theorem filter_facts {f : Filter} (hf : f ∈ (direction d policy config).filters) :
    f.device = policy.deviceFor d ∧ f.parent = (Numbering.of d).root
      ∧ (f.flow = (Numbering.of d).passThrough ∨ f.flow = (Numbering.of d).shaped)
      ∧ ∃ net rest, f.terms = .sourceNet net :: rest ∨ f.terms = .destinationNet net :: rest := by
  rcases mem_filters.1 hf with hex | hsel
  · obtain ⟨port, -, rfl | rfl⟩ := mem_exclusions.1 hex
    · exact ⟨rfl, rfl, Or.inl rfl, _, _, Or.inl rfl⟩
    · exact ⟨rfl, rfl, Or.inl rfl, _, _, Or.inl rfl⟩
  · rcases mem_selections.1 hsel with ⟨ts, hts, rfl⟩ | ⟨ts, hts, rfl⟩
    · obtain ⟨net, rest, rfl⟩ := terms?_eq_some hts
      exact ⟨rfl, rfl, Or.inr rfl, net, rest, Or.inl rfl⟩
    · obtain ⟨net, rest, rfl⟩ := terms?_eq_some hts
      exact ⟨rfl, rfl, Or.inr rfl, net, rest, Or.inr rfl⟩

/-- Filters for excluded ports pass the traffic through, before all others. -/
theorem exclusion_facts {f : Filter} {ports : List UInt16} {device : String}
    (hf : f ∈ exclusions ports (Numbering.of d) device) :
    f.flow = (Numbering.of d).passThrough ∧ f.priority = 1 := by
  obtain ⟨port, -, rfl | rfl⟩ := mem_exclusions.1 hf <;>
    exact ⟨rfl, Numbering.of_exclusionPriority d⟩

/-- Filters for the selectors send theirs to the stages, after the
exclusions. -/
theorem selection_facts {f : Filter} {source destination : Selector} {device : String}
    (hf : f ∈ selections source destination (Numbering.of d) device) :
    f.flow = (Numbering.of d).shaped ∧ f.priority = 2 := by
  rcases mem_selections.1 hf with ⟨ts, -, rfl⟩ | ⟨ts, -, rfl⟩ <;>
    exact ⟨rfl, Numbering.of_selectionPriority d⟩

/-- All exclusions come before all selections, and at a lower number. -/
theorem filters_ordered (i j : Nat) (hi : i < (direction d policy config).filters.length)
    (hj : j < (direction d policy config).filters.length)
    (hpass : ((direction d policy config).filters[i]).flow = (Numbering.of d).passThrough)
    (hshaped : ((direction d policy config).filters[j]).flow = (Numbering.of d).shaped) :
    i < j ∧ ((direction d policy config).filters[i]).priority
      < ((direction d policy config).filters[j]).priority := by
  simp only [direction] at hi hj hpass hshaped ⊢
  -- a filter's flow settles on which side of the append it stands
  have hi' :
      i < (exclusions policy.excludedPorts (Numbering.of d) (policy.deviceFor d)).length := by
    by_contra hge
    rw [List.getElem_append_right (Nat.le_of_not_lt hge)] at hpass
    have hsel := (selection_facts (List.getElem_mem _)).1.symm.trans hpass
    exact Numbering.shaped_ne_passThrough d hsel
  have hj' :
      (exclusions policy.excludedPorts (Numbering.of d) (policy.deviceFor d)).length ≤ j := by
    by_contra hlt
    rw [List.getElem_append_left (Nat.lt_of_not_le hlt)] at hshaped
    have hex := (exclusion_facts (List.getElem_mem _)).1.symm.trans hshaped
    exact Numbering.shaped_ne_passThrough d hex.symm
  refine ⟨Nat.lt_of_lt_of_le hi' hj', ?_⟩
  rw [List.getElem_append_left hi', List.getElem_append_right hj',
    (exclusion_facts (List.getElem_mem _)).2, (selection_facts (List.getElem_mem _)).2]
  decide

-- ===================================================== the directions

/-- Every handle that a rule set mentions has a major set aside for its
direction. -/
theorem major_of_mem_handles {h : Handle} (hh : h ∈ (direction d policy config).handles) :
    h.major ∈ (Numbering.of d).qdiscHandles.map (·.major) := by
  have hroot : (Numbering.of d).root.major ∈ (Numbering.of d).qdiscHandles.map (·.major) :=
    List.mem_map_of_mem (List.mem_cons_self ..)
  have hshaped : (Numbering.of d).shaped.major = (Numbering.of d).root.major :=
    (Numbering.class_inside (Or.inr rfl)).1
  rcases List.mem_append.1 hh with hqdisc | hfilter
  · rcases List.mem_append.1 hqdisc with hname | hparent
    · obtain ⟨q, hq, rfl⟩ := List.mem_map.1 hname
      exact List.mem_map_of_mem (handle_mem_qdiscHandles hq)
    · obtain ⟨q, hq, hat⟩ := List.mem_filterMap.1 hparent
      rcases mem_qdiscs.1 hq with rfl | hstage
      · cases hat
      · rcases mem_stages.1 hstage with ⟨ps, -, rfl⟩ | ⟨ps, -, rfl⟩
        · obtain rfl := Option.some.inj hat
          rw [hshaped]
          exact hroot
        · obtain rfl := Option.some.inj hat
          cases policy.shaping.bandwidth with
          | none =>
              show (Numbering.of d).shaped.major ∈ _
              rw [hshaped]
              exact hroot
          | some bs => exact List.mem_map_of_mem (List.mem_cons_of_mem _ (List.mem_cons_self ..))
  · obtain ⟨f, hf, hmem⟩ := List.mem_flatMap.1 hfilter
    obtain ⟨-, hat, hflow, -⟩ := filter_facts hf
    rcases List.mem_cons.1 hmem with rfl | hmem
    · rw [hat]
      exact hroot
    · rw [List.mem_singleton.1 hmem, (Numbering.class_inside hflow).1]
      exact hroot

/-- The opposite direction mentions no handle with the major of a discipline
of this one. -/
theorem handles_apart {q : Qdisc} (hq : q ∈ (direction d policy config).qdiscs) {h : Handle}
    (hh : h ∈ (direction d.opposite policy config).handles) : h.major ≠ q.handle.major := by
  have hown : q.handle.major ∈ (Numbering.of d).qdiscHandles.map (·.major) :=
    List.mem_map_of_mem (handle_mem_qdiscHandles hq)
  have hother := major_of_mem_handles hh
  have hdisjoint : ((Numbering.of d.opposite).qdiscHandles.map (·.major)).all
      (fun a => decide (a ∉ (Numbering.of d).qdiscHandles.map (·.major))) = true := by
    cases d <;> decide
  have hnot := of_decide_eq_true (List.all_eq_true.1 hdisjoint _ hother)
  exact fun heq => hnot (heq ▸ hown)

end Compile

-- ========================================================= the statement

open Compile in
/-- Every compiled rule set is a well-formed tree: of every policy, under
every setting of the compiler, in either direction. -/
theorem compile_isTree (policy : ShapingPolicy) (config : CompilerConfig) (d : Direction) :
    ((compile policy config).get d).IsTree policy d ((compile policy config).get d.opposite) := by
  rw [compile_get, compile_get]
  exact {
    root_first := by
      refine ⟨_, _, rfl, rfl, fun p hp => ?_⟩
      rcases mem_stages.1 hp with ⟨ps, -, rfl⟩ | ⟨ps, -, rfl⟩
      · exact fun h => nomatch h
      · exact fun h => nomatch h
    grounded := grounded_qdiscs
    handles_isQdisc := fun q hq => isQdisc_of_mem_qdiscHandles (handle_mem_qdiscHandles hq)
    handles_nodup := nodup_handles policy config d
    handles_numbered := fun q hq => handle_mem_qdiscHandles hq
    handles_apart := fun q hq h hh => handles_apart hq hh
    parents_nodup := nodup_parents policy config d
    wayDown_shaped := by
      intro qs
      constructor
      · exact fun hway => wayDown_unique (nodup_parents policy config d) hway wayDown_stages
      · rintro rfl
        exact wayDown_stages
    kinds := kinds_eq policy config d
    filters_inside := by
      refine ⟨_, _, 3, rfl, rfl, fun f hf => ?_⟩
      obtain ⟨-, hparent, hflow, -⟩ := filter_facts hf
      exact ⟨hparent, Numbering.class_inside hflow⟩
    filters_flow := fun f hf => (filter_facts hf).2.2.1
    filters_ordered := filters_ordered
    filters_address := fun f hf => (filter_facts hf).2.2.2
    direction_eq := rfl
    device_eq := rfl
    qdiscs_device := fun q hq => qdisc_device hq
    filters_device := fun f hf => (filter_facts hf).1 }

end TrafficShaping
