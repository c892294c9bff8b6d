/-
Compiled filters steer packets exactly as the policy says
(`compile_classifies`).

What the filters of a rule set do with a packet is said on the rule set
alone: the packet goes where some matching filter of least number sends it,
whichever of them that is, and where none matches, to the class that the
root's priority map gives it. What the policy wants is said on the policy
alone. Whether an address is in a network is left open, but for the network
of every address.
-/
import TrafficShaping.Proofs.Rules.Tree

namespace TrafficShaping

-- ============================================================ packets

/-- A packet, as far as a root and its filters look at it. -/
structure Packet (Address : Type) where
  source : Address
  destination : Address
  sourcePort : UInt16
  destinationPort : UInt16
  /-- Which entry of a priority map is the packet's. -/
  rank : Fin 16

variable {Address : Type} (within : String → Address → Prop)

/-- Whether a packet meets a term. -/
def MatchTerm.Meets : MatchTerm → Packet Address → Prop
  | sourceNet net, p => within net p.source
  | destinationNet net, p => within net p.destination
  | sourcePort port, p => p.sourcePort = port
  | destinationPort port, p => p.destinationPort = port
  | all, _ => True

/-- Whether a packet meets a filter: all of its terms. -/
def Filter.Meets (f : Filter) (p : Packet Address) : Prop := ∀ t ∈ f.terms, t.Meets within p

/-- The entry of a discipline's priority map for a packet of this rank. -/
def Qdisc.priomapBand? (q : Qdisc) (rank : Fin 16) : Option Nat :=
  match (q.params.dropWhile (· != "priomap")).tail[rank.val]? with
  | some band => (Text.readNumeral 65535 band.toList).toOption
  | none => none

/-- The classes a rule set may send a packet to. -/
inductive RuleSet.Sends (r : RuleSet) (p : Packet Address) : Handle → Prop where
  /-- Some filter of least number among those that the packet meets; which
  one, where there are several, is left open. -/
  | byFilter {f : Filter} (hmem : f ∈ r.filters) (hmeets : f.Meets within p)
      (hleast : ∀ g ∈ r.filters, g.Meets within p → f.priority ≤ g.priority) : Sends r p f.flow
  /-- The root's map, where the packet meets no filter. Entry `b` stands for
  class `b + 1`. -/
  | byMap {q : Qdisc} {b : Nat} (hnone : ∀ f ∈ r.filters, ¬ f.Meets within p)
      (hmem : q ∈ r.qdiscs) (hroot : q.parent = .root) (hentry : q.priomapBand? p.rank = some b) :
      Sends r p (q.handle.child (UInt16.ofNat (b + 1)))

-- =================================================== what the policy wants

/-- Whether a selector is about an end point. -/
def Selector.Selects : Selector → Address → UInt16 → Prop
  | nothing, _, _ => False
  | matching network port, a, n =>
    within (network.getD "0.0.0.0/0") a ∧ (port = none ∨ port = some n)

/-- Whether a policy wants a packet shaped: neither of its ports is excluded,
and one of its ends is selected. -/
def ShapingPolicy.Shapes (policy : ShapingPolicy) (p : Packet Address) : Prop :=
  p.sourcePort ∉ policy.excludedPorts ∧ p.destinationPort ∉ policy.excludedPorts
    ∧ (policy.source.Selects within p.source p.sourcePort
      ∨ policy.destination.Selects within p.destination p.destinationPort)

namespace Compile

variable {within} {p : Packet Address} {n : Numbering} {device : String}

-- ==================================================== what filters meet

/-- A packet meets an exclusion where it meets the port term, for its address
is in the network of every address. -/
theorem exclusion_meets (hany : ∀ a, within "0.0.0.0/0" a) {term : MatchTerm} :
    (exclusion n device term).Meets within p ↔ term.Meets within p := by
  have haddress : (MatchTerm.sourceNet MatchTerm.anyNetwork).Meets within p := hany p.source
  simp [Filter.Meets, exclusion, haddress]

/-- A packet meets some exclusion exactly where one of its ports is
excluded. -/
theorem exists_exclusion_meets (hany : ∀ a, within "0.0.0.0/0" a) {ports : List UInt16} :
    (∃ f ∈ exclusions ports n device, f.Meets within p)
      ↔ p.sourcePort ∈ ports ∨ p.destinationPort ∈ ports := by
  constructor
  · rintro ⟨f, hf, hmeets⟩
    obtain ⟨port, hport, rfl | rfl⟩ := mem_exclusions.1 hf
    · have hsource : p.sourcePort = port := (exclusion_meets hany).1 hmeets
      exact Or.inl (hsource ▸ hport)
    · have hdestination : p.destinationPort = port := (exclusion_meets hany).1 hmeets
      exact Or.inr (hdestination ▸ hport)
  · rintro (h | h)
    · exact ⟨_, mem_exclusions.2 ⟨_, h, Or.inl rfl⟩, (exclusion_meets hany).2 rfl⟩
    · exact ⟨_, mem_exclusions.2 ⟨_, h, Or.inr rfl⟩, (exclusion_meets hany).2 rfl⟩

/-- The end of a packet at a side. -/
def Side.endpoint : Side → Packet Address → Address × UInt16
  | .source, p => (p.source, p.sourcePort)
  | .destination, p => (p.destination, p.destinationPort)

/-- The terms of a selector are met exactly where it selects the packet's end
at that side. -/
theorem exists_terms_meet (side : Side) {selector : Selector} :
    (∃ ts, terms? side selector = some ts ∧ ∀ t ∈ ts, t.Meets within p)
      ↔ selector.Selects within (side.endpoint p).1 (side.endpoint p).2 := by
  cases selector with
  | nothing => simp [terms?, Selector.Selects]
  | matching network port =>
      cases side <;> cases port <;>
        simp [terms?, Selector.Selects, Side.net, Side.port, Side.endpoint, MatchTerm.Meets,
          MatchTerm.anyNetwork, eq_comm]

/-- A packet meets some selection exactly where one of its ends is
selected. -/
theorem exists_selection_meets {source destination : Selector} :
    (∃ f ∈ selections source destination n device, f.Meets within p)
      ↔ source.Selects within p.source p.sourcePort
        ∨ destination.Selects within p.destination p.destinationPort := by
  constructor
  · rintro ⟨f, hf, hmeets⟩
    rcases mem_selections.1 hf with ⟨ts, hts, rfl⟩ | ⟨ts, hts, rfl⟩
    · exact Or.inl ((exists_terms_meet .source).1 ⟨ts, hts, hmeets⟩)
    · exact Or.inr ((exists_terms_meet .destination).1 ⟨ts, hts, hmeets⟩)
  · rintro (h | h)
    · obtain ⟨ts, hts, hmeets⟩ := (exists_terms_meet .source).2 h
      exact ⟨_, mem_selections.2 (Or.inl ⟨ts, hts, rfl⟩), hmeets⟩
    · obtain ⟨ts, hts, hmeets⟩ := (exists_terms_meet .destination).2 h
      exact ⟨_, mem_selections.2 (Or.inr ⟨ts, hts, rfl⟩), hmeets⟩

-- ======================================================= the root's map

/-- Whatever the rank, the root's map gives the first band: the one of the
pass-through class. -/
theorem priomapBand?_root (d : Direction) (rank : Fin 16) :
    (root (Numbering.of d) device).priomapBand? rank = some 0 := by
  have hentries : ∀ i : Fin 16,
      (root (Numbering.of d) "").priomapBand? i = some 0 := by
    cases d <;> decide
  exact hentries rank

variable {policy : ShapingPolicy} {config : CompilerConfig} {d : Direction}

/-- The discipline at the device is the root. -/
theorem eq_root_of_parent {q : Qdisc} (hq : q ∈ (direction d policy config).qdiscs)
    (hroot : q.parent = .root) : q = root (Numbering.of d) (policy.deviceFor d) := by
  rcases mem_qdiscs.1 hq with rfl | hstage
  · rfl
  · rcases mem_stages.1 hstage with ⟨ps, -, rfl⟩ | ⟨ps, -, rfl⟩ <;> cases hroot

/-- The class of the first band is the pass-through class. -/
theorem child_first_band :
    (Numbering.of d).root.child (UInt16.ofNat (0 + 1)) = (Numbering.of d).passThrough := by
  cases d <;> rfl

-- ==================================================== where packets go

/-- Where the filters of least number that a packet meets all lead to one
class, the packet is sent there and nowhere else. -/
theorem sends_iff_of_least {r : RuleSet} {e : Filter} (hmem : e ∈ r.filters)
    (hmeets : e.Meets within p)
    (hleast : ∀ f ∈ r.filters, f.Meets within p → e.priority ≤ f.priority)
    (hflow : ∀ f ∈ r.filters, f.Meets within p → f.priority ≤ e.priority → f.flow = e.flow)
    {c : Handle} : r.Sends within p c ↔ c = e.flow := by
  constructor
  · intro hsends
    cases hsends with
    | byFilter hf hfmeets hfleast => exact hflow _ hf hfmeets (hfleast e hmem hmeets)
    | byMap hnone => exact absurd hmeets (hnone e hmem)
  · rintro rfl
    exact .byFilter hmem hmeets hleast

/-- A packet with an excluded port can only pass through: the exclusions are
looked at before all selections, and there is one that it meets. -/
theorem sends_of_excluded (hany : ∀ a, within "0.0.0.0/0" a)
    (hport : p.sourcePort ∈ policy.excludedPorts ∨ p.destinationPort ∈ policy.excludedPorts)
    {c : Handle} :
    (direction d policy config).Sends within p c ↔ c = (Numbering.of d).passThrough := by
  obtain ⟨e, he, hmeets⟩ := (exists_exclusion_meets hany).2 hport
  obtain ⟨hflow, hprio⟩ := exclusion_facts he
  rw [← hflow]
  refine sends_iff_of_least (mem_filters.2 (Or.inl he)) hmeets (fun f hf _ => ?_)
    fun f hf _ hle => ?_
  · rw [hprio]
    rcases mem_filters.1 hf with hex | hsel
    · rw [(exclusion_facts hex).2]
      decide
    · rw [(selection_facts hsel).2]
      decide
  · rcases mem_filters.1 hf with hex | hsel
    · rw [hflow, (exclusion_facts hex).1]
    · rw [hprio, (selection_facts hsel).2] at hle
      exact absurd hle (by decide)

/-- A packet with no excluded port and a selected end can only be shaped: it
meets a selection and no exclusion. -/
theorem sends_of_selected (hany : ∀ a, within "0.0.0.0/0" a)
    (hport : ¬ (p.sourcePort ∈ policy.excludedPorts ∨ p.destinationPort ∈ policy.excludedPorts))
    (hend : policy.source.Selects within p.source p.sourcePort
      ∨ policy.destination.Selects within p.destination p.destinationPort)
    {c : Handle} :
    (direction d policy config).Sends within p c ↔ c = (Numbering.of d).shaped := by
  obtain ⟨e, he, hmeets⟩ := exists_selection_meets.2 hend
  obtain ⟨hflow, hprio⟩ := selection_facts he
  have hselection : ∀ f ∈ (direction d policy config).filters, f.Meets within p →
      f.flow = (Numbering.of d).shaped ∧ f.priority = 2 := by
    intro f hf hfmeets
    rcases mem_filters.1 hf with hex | hsel
    · exact absurd ((exists_exclusion_meets hany).1 ⟨f, hex, hfmeets⟩) hport
    · exact selection_facts hsel
  rw [← hflow]
  refine sends_iff_of_least (mem_filters.2 (Or.inr he)) hmeets (fun f hf hfmeets => ?_)
    fun f hf hfmeets _ => ?_
  · rw [hprio, (hselection f hf hfmeets).2]
    decide
  · rw [hflow, (hselection f hf hfmeets).1]

/-- A packet with neither can only pass through: it meets no filter, and the
root's map has the first band for it. -/
theorem sends_of_unselected (hany : ∀ a, within "0.0.0.0/0" a)
    (hport : ¬ (p.sourcePort ∈ policy.excludedPorts ∨ p.destinationPort ∈ policy.excludedPorts))
    (hend : ¬ (policy.source.Selects within p.source p.sourcePort
      ∨ policy.destination.Selects within p.destination p.destinationPort))
    {c : Handle} :
    (direction d policy config).Sends within p c ↔ c = (Numbering.of d).passThrough := by
  have hnone : ∀ f ∈ (direction d policy config).filters, ¬ f.Meets within p := by
    intro f hf hmeets
    rcases mem_filters.1 hf with hex | hsel
    · exact hport ((exists_exclusion_meets hany).1 ⟨f, hex, hmeets⟩)
    · exact hend (exists_selection_meets.1 ⟨f, hsel, hmeets⟩)
  constructor
  · intro hsends
    cases hsends with
    | byFilter hf hmeets _ => exact absurd hmeets (hnone _ hf)
    | byMap _ hq hroot hentry =>
        obtain rfl := eq_root_of_parent hq hroot
        rw [priomapBand?_root] at hentry
        obtain rfl := Option.some.inj hentry
        exact child_first_band
  · rintro rfl
    rw [← child_first_band]
    exact .byMap hnone (mem_qdiscs.2 (Or.inl rfl)) rfl (priomapBand?_root d p.rank)

end Compile

-- ========================================================= the statement

variable {within}

open Compile in
/-- Under every way of telling which network an address is in, every packet is
sent to exactly one class, in either direction: to the shaped class where the
policy wants it shaped, else to the class that traffic passes through. -/
theorem compile_classifies (hany : ∀ a, within "0.0.0.0/0" a) (policy : ShapingPolicy)
    (config : CompilerConfig) (d : Direction) (p : Packet Address) :
    (∃! c, ((compile policy config).get d).Sends within p c)
      ∧ (((compile policy config).get d).Sends within p (Numbering.of d).shaped
          ↔ policy.Shapes within p)
      ∧ (((compile policy config).get d).Sends within p (Numbering.of d).passThrough
          ↔ ¬ policy.Shapes within p) := by
  rw [compile_get]
  have hne := Numbering.shaped_ne_passThrough d
  by_cases hport : p.sourcePort ∈ policy.excludedPorts ∨ p.destinationPort ∈ policy.excludedPorts
  · have hshapes : ¬ policy.Shapes within p :=
      fun h => hport.elim (fun hs => h.1 hs) (fun hd => h.2.1 hd)
    simp [sends_of_excluded hany hport, hshapes, hne]
  · by_cases hend : policy.source.Selects within p.source p.sourcePort
        ∨ policy.destination.Selects within p.destination p.destinationPort
    · have hshapes : policy.Shapes within p :=
        ⟨fun h => hport (Or.inl h), fun h => hport (Or.inr h), hend⟩
      simp [sends_of_selected hany hport hend, hshapes, hne.symm]
    · have hshapes : ¬ policy.Shapes within p := fun h => hend h.2.2
      simp [sends_of_unselected hany hport hend, hshapes, hne]

/-- With addresses that are only told apart by a first byte of ten, the
packets of that network are shaped, but for those of the excluded port. -/
theorem compile_classifies_by_first_byte :
    let within : String → Bool → Prop :=
      fun net isTen => net = "0.0.0.0/0" ∨ (net = "10.0.0.0/8" ∧ isTen = true)
    let policy : ShapingPolicy :=
      { ShapingPolicy.default with
          source := .matching (some "10.0.0.0/8") (some 443), destination := .nothing }
    let r := (compile policy CompilerConfig.default).get .inbound
    (∀ a, within "0.0.0.0/0" a)
      ∧ r.Sends within ⟨true, false, 443, 5000, 0⟩ (Numbering.of .inbound).shaped
      ∧ r.Sends within ⟨false, true, 443, 5000, 6⟩ (Numbering.of .inbound).passThrough
      ∧ r.Sends within ⟨true, false, 443, 22, 0⟩ (Numbering.of .inbound).passThrough := by
  intro within policy r
  have hany : ∀ a, within "0.0.0.0/0" a := fun a => Or.inl rfl
  have hclass := compile_classifies hany policy CompilerConfig.default .inbound
  refine ⟨hany, (hclass _).2.1.2 ?_, (hclass _).2.2.2 ?_, (hclass _).2.2.2 ?_⟩
  · simp [ShapingPolicy.Shapes, Selector.Selects, policy, within, ShapingPolicy.default]
  · simp [ShapingPolicy.Shapes, Selector.Selects, policy, within, ShapingPolicy.default]
  · simp [ShapingPolicy.Shapes, policy, ShapingPolicy.default]

end TrafficShaping
