/-
Installing a compiled rule set on a platform brings its tree to the device,
rule by rule.

A device needs to have no tree for it, and that is all: every discipline
finds its parent among those before it and its own name free, and every
filter finds the root. On a device that has a tree already not even the first
rule can be installed.
-/
import TrafficShaping.Proofs.Platform.Answers
import TrafficShaping.Proofs.Session.Schedule

namespace TrafficShaping

-- ==================================================== trees of rule sets

/-- A discipline as it is once it is installed. -/
def Qdisc.installed (q : Qdisc) : Discipline := ⟨q.handle, q.parent, q.words⟩

/-- The tree that a rule set comes to. -/
def RuleSet.tree (r : RuleSet) : DeviceTree where
  qdiscs := r.qdiscs.map Qdisc.installed
  filters := r.filters.map fun f => (f.parent, f.words)

/-- What it takes for the rules of a rule set to go in one by one: the root
comes first and carries all filters, every other discipline is carried by one
before it, no name is used twice, and everything is on one device. -/
structure RuleSet.Installable (r : RuleSet) (name : String) : Prop where
  root_first : ∃ root stages, r.qdiscs = root :: stages ∧ root.parent = .root
    ∧ root.handle ≠ Command.ingressHandle ∧ ∀ f ∈ r.filters, f.parent = root.handle
  grounded : Grounded r.qdiscs
  nodup : (r.qdiscs.map (·.handle)).Nodup
  isQdisc : ∀ q ∈ r.qdiscs, q.handle.isQdisc = true
  qdiscs_device : ∀ q ∈ r.qdiscs, q.device = name
  filters_device : ∀ f ∈ r.filters, f.device = name

/-- Compiled rule sets are like that. -/
theorem compile_installable (policy : ShapingPolicy) (config : CompilerConfig) (d : Direction) :
    ((compile policy config).get d).Installable (policy.deviceFor d) := by
  rw [compile_get]
  exact {
    root_first := by
      refine ⟨_, _, rfl, rfl, ?_, fun f hf => (Compile.filter_facts hf).2.1⟩
      show (Numbering.of d).root ≠ Command.ingressHandle
      cases d <;> decide
    grounded := Compile.grounded_qdiscs
    nodup := Compile.nodup_handles policy config d
    isQdisc := fun q hq => Compile.isQdisc_of_mem_qdiscHandles (Compile.handle_mem_qdiscHandles hq)
    qdiscs_device := fun q hq => Compile.qdisc_device hq
    filters_device := fun f hf => (Compile.filter_facts hf).1 }

namespace Platform

open Shaper (changes)

variable {σ : Platform} {name : String} {ingress : Option (List (List String))}

/-- The names in use among installed disciplines. -/
theorem mem_handles {qs : List Qdisc} {filters : List (Handle × List String)} {h : Handle} :
    h ∈ (⟨qs.map Qdisc.installed, filters⟩ : DeviceTree).handles ↔ h ∈ qs.map (·.handle) := by
  simp [DeviceTree.handles, Qdisc.installed]

/-- A discipline's handle is what its major stands for. -/
theorem qdisc_major {h : Handle} (hqdisc : h.isQdisc = true) : Handle.qdisc h.major = h := by
  obtain ⟨major, minor⟩ := h
  have hminor : minor = 0 := by simpa [Handle.isQdisc] using hqdisc
  rw [hminor]
  rfl

-- ===================================================== rule by rule

/-- A root needs a device without a tree. -/
theorem brings_root {q : Qdisc} (hroot : q.parent = .root) (hname : q.device = name)
    (hdev : σ.device? name = some ⟨none, ingress⟩) :
    σ.Brings (changes [Command.installQdisc q])
      (σ.set name (some ⟨some ⟨[q.installed], []⟩, ingress⟩)) := by
  subst hname
  have hon : q.act.on (σ.device? q.device)
      = some (some ⟨some ⟨[q.installed], []⟩, ingress⟩) := by
    simp [Qdisc.act, hroot, hdev, Act.on, Qdisc.installed]
  exact brings_of_on (Operation.read?_installQdisc q) hon

/-- A child needs the discipline that carries it, and its own name free. -/
theorem brings_child {p q : Qdisc} {qs : List Qdisc} (hp : p ∈ qs)
    (hqdisc : p.handle.isQdisc = true) (hcarries : p.Carries q)
    (hfree : q.handle ∉ qs.map (·.handle)) (hname : q.device = name)
    (hdev : σ.device? name = some ⟨some ⟨qs.map Qdisc.installed, []⟩, ingress⟩) :
    σ.Brings (changes [Command.installQdisc q])
      (σ.set name (some ⟨some ⟨(qs ++ [q]).map Qdisc.installed, []⟩, ingress⟩)) := by
  subst hname
  obtain ⟨h, hparent, hmajor⟩ := hcarries
  have hcarrier : Handle.qdisc h.major ∈ qs.map (·.handle) := by
    rw [hmajor, qdisc_major hqdisc]
    exact List.mem_map_of_mem hp
  have hon : q.act.on (σ.device? q.device)
      = some (some ⟨some ⟨(qs ++ [q]).map Qdisc.installed, []⟩, ingress⟩) := by
    unfold Qdisc.act
    rw [hparent, hdev]
    simp only [Act.on, mem_handles]
    rw [if_pos ⟨hcarrier, hfree⟩]
    simp [Qdisc.installed, hparent]
  exact brings_of_on (Operation.read?_installQdisc q) hon

/-- Disciplines that are grounded on those before them go in one by one. -/
theorem brings_disciplines {pre rest : List Qdisc} (hpre : 0 < pre.length)
    (hgrounded : Grounded (pre ++ rest)) (hnodup : ((pre ++ rest).map (·.handle)).Nodup)
    (hqdisc : ∀ q ∈ pre ++ rest, q.handle.isQdisc = true) (hname : ∀ q ∈ rest, q.device = name)
    (hdev : σ.device? name = some ⟨some ⟨pre.map Qdisc.installed, []⟩, ingress⟩) :
    σ.Brings (changes (rest.map Command.installQdisc))
      (σ.set name (some ⟨some ⟨(pre ++ rest).map Qdisc.installed, []⟩, ingress⟩)) := by
  induction rest generalizing σ pre with
  | nil =>
      rw [List.append_nil, set_eq_self hdev]
      exact brings_nil σ
  | cons q rest ih =>
      obtain ⟨p, hp, hcarries⟩ := Compile.carrier_of_grounded hpre hgrounded
      have hfree : q.handle ∉ pre.map (·.handle) := by
        rw [List.map_append, List.nodup_append] at hnodup
        exact fun hmem => hnodup.2.2 _ hmem _ (by simp) rfl
      have hhead := brings_child hp (hqdisc p (List.mem_append_left _ hp)) hcarries hfree
        (hname q (List.mem_cons_self ..)) hdev
      -- `q` is among those before the rest from here on
      have hshift : pre ++ q :: rest = (pre ++ [q]) ++ rest := by simp
      rw [hshift] at hgrounded hnodup hqdisc ⊢
      have htail := ih (by simp) hgrounded hnodup hqdisc
        (fun p hp => hname p (List.mem_cons_of_mem _ hp))
        (set_same σ name (some ⟨some ⟨(pre ++ [q]).map Qdisc.installed, []⟩, ingress⟩))
      rw [set_set] at htail
      exact hhead.seq htail

/-- Filters at a discipline of the tree go in one by one. -/
theorem brings_filters {qs : List Discipline} {filters : List (Handle × List String)}
    {fs : List Filter}
    (hparent : ∀ f ∈ fs, f.parent ≠ Command.ingressHandle ∧ f.parent ∈ qs.map (·.handle))
    (hname : ∀ f ∈ fs, f.device = name)
    (hdev : σ.device? name = some ⟨some ⟨qs, filters⟩, ingress⟩) :
    σ.Brings (changes (fs.map Command.installFilter))
      (σ.set name
        (some ⟨some ⟨qs, filters ++ fs.map fun f => (f.parent, f.words)⟩, ingress⟩)) := by
  induction fs generalizing σ filters with
  | nil =>
      rw [List.map_nil, List.map_nil, List.append_nil, set_eq_self hdev]
      exact brings_nil σ
  | cons f fs ih =>
      obtain ⟨hne, hmem⟩ := hparent f (List.mem_cons_self ..)
      obtain rfl := hname f (List.mem_cons_self ..)
      have hon : (Act.addFilter f.parent f.words).on (σ.device? f.device)
          = some (some ⟨some ⟨qs, filters ++ [(f.parent, f.words)]⟩, ingress⟩) := by
        have htree : f.parent ∈ (⟨qs, filters⟩ : DeviceTree).handles := hmem
        simp [hdev, Act.on, Device.addFilter?, hne, htree]
      have hhead : σ.Brings (changes [Command.installFilter f]) _ :=
        brings_of_on (Operation.read?_installFilter f) hon
      have htail := ih (fun g hg => hparent g (List.mem_cons_of_mem _ hg))
        (fun g hg => hname g (List.mem_cons_of_mem _ hg))
        (set_same σ f.device (some ⟨some ⟨qs, filters ++ [(f.parent, f.words)]⟩, ingress⟩))
      rw [set_set, List.append_assoc] at htail
      exact hhead.seq htail

-- ================================================= the whole rule set

variable {r : RuleSet}

/-- Installing a rule set brings its tree to a device that has none. -/
theorem brings_rules (hr : r.Installable name) (hdev : σ.device? name = some ⟨none, ingress⟩) :
    σ.Brings (changes (Command.installRules r)) (σ.set name (some ⟨some r.tree, ingress⟩)) := by
  obtain ⟨root, stages, hqdiscs, hparent, hne, hfilters⟩ := hr.root_first
  obtain ⟨-, hgrounded, hnodup, hqdisc, hdevice, hfilter⟩ := hr
  rw [hqdiscs] at hgrounded hnodup hqdisc hdevice
  have hfirst := brings_root hparent (hdevice root (List.mem_cons_self ..)) hdev
  have hrest : Brings _ (changes (stages.map Command.installQdisc)) _ :=
    brings_disciplines (show 0 < [root].length from Nat.zero_lt_one) hgrounded hnodup hqdisc
      (fun q hq => hdevice q (List.mem_cons_of_mem _ hq))
      (set_same σ name (some ⟨some ⟨[root].map Qdisc.installed, []⟩, ingress⟩))
  have hroot : ∀ f ∈ r.filters, f.parent ≠ Command.ingressHandle
      ∧ f.parent ∈ ((root :: stages).map Qdisc.installed).map (·.handle) := by
    intro f hf
    rw [hfilters f hf]
    exact ⟨hne, List.mem_cons_self ..⟩
  have hlast := brings_filters hroot hfilter
    (set_same σ name (some ⟨some ⟨(root :: stages).map Qdisc.installed, []⟩, ingress⟩))
  rw [set_set] at hrest hlast
  have htree : r.tree = ⟨(root :: stages).map Qdisc.installed,
      r.filters.map fun f => (f.parent, f.words)⟩ := by
    simp only [RuleSet.tree, hqdiscs]
  have hchanges : changes (Command.installRules r)
      = changes [Command.installQdisc root] ++ (changes (stages.map Command.installQdisc)
        ++ changes (r.filters.map Command.installFilter)) := by
    simp [Command.installRules, hqdiscs, changes]
  rw [hchanges, htree]
  exact hfirst.seq (hrest.seq hlast)

/-- A device that has a tree already is refused the first rule. -/
theorem not_carries_rules (hr : r.Installable name) {tree : DeviceTree}
    (hdev : σ.device? name = some ⟨some tree, ingress⟩) :
    ¬ σ.Carries (changes (Command.installRules r)) := by
  obtain ⟨root, stages, hqdiscs, hparent, -⟩ := hr.root_first
  have hname : root.device = name := hr.qdiscs_device root (by simp [hqdiscs])
  have hrules : Command.installRules r = Command.installQdisc root
      :: (stages.map Command.installQdisc ++ r.filters.map Command.installFilter) := by
    simp [Command.installRules, hqdiscs]
  rw [hrules]
  intro hcarries
  have hpermits := hcarries.1 rfl
  rw [permits_iff (Operation.read?_installQdisc root)] at hpermits
  simp [Qdisc.act, hparent, hname, hdev, Act.on] at hpermits

end Platform

end TrafficShaping
