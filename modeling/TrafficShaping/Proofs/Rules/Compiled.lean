/-
What a compiled rule set holds.

A rule set is put together by four builders, two for disciplines and two for
filters. The lemmas below say once what each of them can contribute, so that
a fact about every rule is proved by going through three kinds of discipline
and two kinds of filter, whatever stages, selectors and ports a policy has.
-/
import TrafficShaping.Compile

namespace TrafficShaping

-- ======================================================== numbering

namespace Numbering

/-- Both classes that traffic is led to are inside the root, within its three
bands. -/
theorem class_inside {d : Direction} {c : Handle}
    (h : c = (Numbering.of d).passThrough ∨ c = (Numbering.of d).shaped) :
    c.major = (Numbering.of d).root.major ∧ 1 ≤ c.minor.toNat ∧ c.minor.toNat ≤ 3 := by
  rcases h with rfl | rfl <;> cases d <;> decide

@[simp] theorem of_exclusionPriority (d : Direction) :
    (Numbering.of d).exclusionPriority = 1 := by
  cases d <;> rfl

@[simp] theorem of_selectionPriority (d : Direction) :
    (Numbering.of d).selectionPriority = 2 := by
  cases d <;> rfl

/-- The shaped class is not the one that traffic passes through. -/
theorem shaped_ne_passThrough (d : Direction) :
    (Numbering.of d).shaped ≠ (Numbering.of d).passThrough := by
  cases d <;> decide

end Numbering

namespace Compile

-- ========================================================== filters

/-- The filter that lets the packets of an excluded port pass through. -/
def exclusion (n : Numbering) (device : String) (term : MatchTerm) : Filter where
  device := device
  parent := n.root
  priority := n.exclusionPriority
  terms := [.sourceNet MatchTerm.anyNetwork, term]
  flow := n.passThrough

/-- The filter that has selected packets shaped. -/
def selection (n : Numbering) (device : String) (terms : List MatchTerm) : Filter where
  device := device
  parent := n.root
  priority := n.selectionPriority
  terms := terms
  flow := n.shaped

variable {n : Numbering} {device : String} {f : Filter}

/-- The exclusions are two for each port: one for packets from it and one for
packets to it. -/
theorem mem_exclusions {ports : List UInt16} :
    f ∈ exclusions ports n device
      ↔ ∃ port ∈ ports, f = exclusion n device (.sourcePort port)
        ∨ f = exclusion n device (.destinationPort port) := by
  unfold exclusions
  rw [List.mem_flatMap]
  refine exists_congr fun port => and_congr_right fun _ => ?_
  simp [excludedPort, exclusion]

/-- The selections are one for each side whose selector has terms at all. -/
theorem mem_selections {source destination : Selector} :
    f ∈ selections source destination n device
      ↔ (∃ ts, terms? .source source = some ts ∧ f = selection n device ts)
        ∨ ∃ ts, terms? .destination destination = some ts ∧ f = selection n device ts := by
  unfold selections
  simp [selection, eq_comm (a := f)]

/-- The terms of a selector begin with one about the address. -/
theorem terms?_eq_some {side : Side} {selector : Selector} {ts : List MatchTerm}
    (h : terms? side selector = some ts) : ∃ net rest, ts = side.net net :: rest := by
  cases selector with
  | nothing => cases h
  | matching network port =>
      obtain rfl := Option.some.inj h
      exact ⟨_, _, rfl⟩

-- ====================================================== disciplines

variable {policy : ShapingPolicy} {config : CompilerConfig} {d : Direction} {q : Qdisc}

/-- The stages are the bandwidth limit where there is one, and after it the
impairment where there is one. -/
theorem mem_stages {spec : ShapingSpec} :
    q ∈ stages spec n device config
      ↔ (∃ ps, spec.bandwidth = some ps ∧ q = bandwidth n device ps)
        ∨ ∃ ps, spec.impairment = some ps
          ∧ q = impairment n device config spec.bandwidth.isSome spec.reorder ps := by
  unfold stages
  simp [eq_comm (a := q)]

/-- Every discipline of a rule set is its root or a stage. -/
theorem mem_qdiscs :
    q ∈ (direction d policy config).qdiscs
      ↔ q = root (Numbering.of d) (policy.deviceFor d)
        ∨ q ∈ stages policy.shaping (Numbering.of d) (policy.deviceFor d) config :=
  List.mem_cons

/-- Every filter of a rule set is an exclusion or a selection. -/
theorem mem_filters :
    f ∈ (direction d policy config).filters
      ↔ f ∈ exclusions policy.excludedPorts (Numbering.of d) (policy.deviceFor d)
        ∨ f ∈ selections policy.source policy.destination (Numbering.of d)
            (policy.deviceFor d) :=
  List.mem_append

end Compile

/-- The rule set of a direction in a compiled policy. -/
theorem compile_get (policy : ShapingPolicy) (config : CompilerConfig) (d : Direction) :
    (compile policy config).get d = Compile.direction d policy config := by
  cases d <;> rfl

/-- The filters that let packets pass through are the exclusions, two for each
port and in the order of the ports. -/
theorem filtersTo_passThrough (policy : ShapingPolicy) (config : CompilerConfig) (d : Direction) :
    ((compile policy config).get d).filtersTo (Numbering.of d).passThrough
      = policy.excludedPorts.flatMap fun port =>
          [Compile.exclusion (Numbering.of d) (policy.deviceFor d) (.sourcePort port),
            Compile.exclusion (Numbering.of d) (policy.deviceFor d) (.destinationPort port)] := by
  have hexclusions : ∀ f ∈ Compile.exclusions policy.excludedPorts (Numbering.of d)
      (policy.deviceFor d), (f.flow == (Numbering.of d).passThrough) = true := by
    intro f hf
    obtain ⟨port, -, rfl | rfl⟩ := Compile.mem_exclusions.1 hf
    · exact beq_self_eq_true _
    · exact beq_self_eq_true _
  have hselections : ∀ f ∈ Compile.selections policy.source policy.destination (Numbering.of d)
      (policy.deviceFor d), ¬ (f.flow == (Numbering.of d).passThrough) = true := by
    intro f hf
    rw [beq_iff_eq]
    obtain ⟨ts, -, rfl⟩ | ⟨ts, -, rfl⟩ := Compile.mem_selections.1 hf
    · exact Numbering.shaped_ne_passThrough d
    · exact Numbering.shaped_ne_passThrough d
  rw [compile_get]
  unfold RuleSet.filtersTo Compile.direction
  rw [List.filter_append, List.filter_eq_self.2 hexclusions, List.filter_eq_nil_iff.2 hselections,
    List.append_nil]
  rfl

end TrafficShaping
