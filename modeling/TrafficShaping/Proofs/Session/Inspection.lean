/-
Looking at what is installed: which commands it takes, and what it comes to
where every command succeeds in silence.

Each device is asked for its disciplines and, where this library's tree is
among them, for the filters there. So whatever is shown, only queries are
handed over (`status_shows`). A runner that shows nothing is asked once for
each device, and the session returns (`status_dry`).
-/
import TrafficShaping.Proofs.Command.Changes
import TrafficShaping.Proofs.Session.Laws
import TrafficShaping.Shaper.Install

namespace TrafficShaping

-- ================================================ commands of one kind

namespace Session

variable {α β : Type} {P : Command → Prop}

/-- A session hands over commands of one kind only: under any runner and taken
up anywhere, whatever it adds to the commands is of that kind. -/
def Issues (P : Command → Prop) (s : Session α) : Prop :=
  ∀ runner t, ∃ cs, (s.resume runner t).2.commands = t.commands ++ cs ∧ ∀ c ∈ cs, P c

theorem issues_pure (a : α) : (pure a : Session α).Issues P :=
  fun _ t => ⟨[], (List.append_nil t.commands).symm, fun _ h => nomatch h⟩

theorem issues_throw (f : Fault) : (throw f : Session α).Issues P :=
  fun _ t => ⟨[], (List.append_nil t.commands).symm, fun _ h => nomatch h⟩

theorem issues_issue {c : Command} (h : P c) : (issue c).Issues P := by
  intro runner t
  refine ⟨[c], ?_, fun c' hc' => ?_⟩
  · rw [resume_issue, Transcript.issue_commands]
  · rwa [List.mem_singleton.1 hc']

/-- One session after another issues what either issues. -/
theorem Issues.bind {s : Session α} {k : α → Session β} (hs : s.Issues P)
    (hk : ∀ a, (k a).Issues P) : (s >>= k).Issues P := by
  intro runner t
  obtain ⟨cs, hcs, hP⟩ := hs runner t
  rw [resume_bind]
  cases hrun : s.resume runner t with
  | mk result t' =>
      rw [hrun] at hcs
      cases result with
      | error fault => exact ⟨cs, hcs, hP⟩
      | ok a =>
          obtain ⟨ds, hds, hP'⟩ := hk a runner t'
          refine ⟨cs ++ ds, ?_, fun c hc => ?_⟩
          · rw [← List.append_assoc, ← hcs]
            exact hds
          · exact (List.mem_append.1 hc).elim (hP c) (hP' c)

theorem Issues.map {s : Session α} (h : s.Issues P) (g : α → β) : (g <$> s).Issues P := by
  rw [map_eq_pure_bind]
  exact h.bind fun a => issues_pure (g a)

/-- Building a command hands over nothing, and the rest needs to be considered
for the command that was built only. -/
theorem issues_built_bind {result : Except DraftError α} {k : α → Session β}
    (h : ∀ a, result = .ok a → (k a).Issues P) : (built result >>= k).Issues P := by
  cases result with
  | error e => exact issues_throw _
  | ok a => exact h a rfl

/-- All commands of a session are of the kind that it hands over. -/
theorem Issues.under {s : Session α} (h : s.Issues P) (runner : Runner) {c : Command}
    (hc : c ∈ (s.under runner).2.commands) : P c := by
  obtain ⟨cs, hcs, hP⟩ := h runner .empty
  rw [under_eq_resume, hcs] at hc
  exact hP c hc

end Session

-- ========================================================= the queries

namespace Command

theorem device_ne_of_showQdiscs {device : String} {stats : Bool} {c : Command}
    (h : showQdiscs device stats = .ok c) : device ≠ "" := by
  rintro rfl
  cases stats <;> cases h

theorem device_ne_of_showFilters {device : String} {n : Numbering} {c : Command}
    (h : showFilters device n = .ok c) : device ≠ "" := by
  rintro rfl
  cases h

/-- Asks for the disciplines of a device and what passed through them. -/
def showCounts (device : String) : Command := tc ["-s", "qdisc", "show", "dev", device]

/-- Where the device has a name, the queries are these commands. -/
theorem showQdiscs_counts {device : String} (h : device ≠ "") :
    showQdiscs device true = .ok (showCounts device) :=
  Draft.build_of_ne_add .show rfl (by decide) rfl h

/-- Asks for the filters at a root and what passed through them. -/
def showFilterCounts (device : String) (root : Handle) : Command :=
  tc ["-s", "filter", "show", "dev", device, "parent", root.render]

theorem showFilters_eq {device : String} (h : device ≠ "") (n : Numbering) :
    showFilters device n = .ok (showFilterCounts device n.root) :=
  Draft.build_of_ne_add .show rfl (by decide) rfl h

/-- Such queries only show. -/
theorem shows_of_showQdiscs {device : String} {c : Command}
    (h : showQdiscs device true = .ok c) : c.Shows := by
  rw [showQdiscs_counts (device_ne_of_showQdiscs h)] at h
  cases h
  exact .qdiscs device

theorem shows_of_showFilters {device : String} {n : Numbering} {c : Command}
    (h : showFilters device n = .ok c) : c.Shows := by
  rw [showFilters_eq (device_ne_of_showFilters h)] at h
  cases h
  exact .filters device n.root

end Command

-- ======================================================== what it takes

/-- Collecting one device's state only shows. -/
theorem DeviceStatus.collect_shows (policy : ShapingPolicy) (d : Direction) :
    (DeviceStatus.collect policy d).Issues Command.Shows := by
  unfold collect
  -- the filters are asked for only past the disciplines, and either may end it
  refine Session.issues_built_bind fun query hquery => ?_
  refine (Session.issues_issue (Command.shows_of_showQdiscs hquery)).bind fun qdiscs => ?_
  split
  · exact Session.issues_pure _
  · split
    · exact Session.issues_pure _
    · refine Session.issues_built_bind fun query hquery => ?_
      refine (Session.issues_issue (Command.shows_of_showFilters hquery)).bind fun filters => ?_
      split <;> exact Session.issues_pure _

/-- A status is collected from the interface first and then from the mirror. -/
theorem StatusReport.collect_eq (policy : ShapingPolicy) :
    StatusReport.collect policy = do
      let outbound ← DeviceStatus.collect policy .outbound
      let inbound ← DeviceStatus.collect policy .inbound
      return ⟨policy.interface, [outbound, inbound]⟩ := by
  simp [collect, Direction.all]

theorem StatusReport.collect_shows (policy : ShapingPolicy) :
    (StatusReport.collect policy).Issues Command.Shows := by
  rw [StatusReport.collect_eq]
  exact (DeviceStatus.collect_shows _ _).bind fun _ =>
    (DeviceStatus.collect_shows _ _).bind fun _ => Session.issues_pure _

/-- Where nothing is shown, no root is. -/
theorem Numbering.rootShown_empty (d : Direction) : (Numbering.of d).rootShown "" = false := by
  cases d <;> decide

/-- In a dry run a device is asked for its qdiscs, shows no root, and is not
asked further. -/
theorem DeviceStatus.resume_collect_dry {p : ShapingPolicy} {d : Direction}
    (h : p.deviceFor d ≠ "") (t : Transcript) :
    ∃ status, (DeviceStatus.collect p d).resume Runner.dry t
      = (.ok status, t.issue (Command.showCounts (p.deviceFor d))) := by
  have hquery : Session.built (Command.showQdiscs (p.deviceFor d) true)
      = pure (Command.showCounts (p.deviceFor d)) := by
    rw [Command.showQdiscs_counts h]
    rfl
  unfold collect
  simp only [hquery, pure_bind]
  rw [Session.resume_bind_ok (Session.resume_issue _ _ _)]
  simp [CommandOutput.ok, Numbering.rootShown_empty]

/-- A runner that shows nothing is asked for the disciplines of each device, and
that is all. -/
theorem Shaper.status_dry {s : Shaper} (hi : s.policy.interface ≠ "")
    (hm : s.policy.mirrorDevice ≠ "") :
    ∃ report, s.status.under Runner.dry = (.ok report,
      ⟨[Command.showCounts s.policy.interface, Command.showCounts s.policy.mirrorDevice], []⟩) := by
  obtain ⟨outbound, hout⟩ :=
    DeviceStatus.resume_collect_dry (p := s.policy) (d := .outbound) hi .empty
  obtain ⟨inbound, hin⟩ :=
    DeviceStatus.resume_collect_dry (p := s.policy) (d := .inbound) hm _
  refine ⟨⟨s.policy.interface, [outbound, inbound]⟩, ?_⟩
  unfold status
  rw [StatusReport.collect_eq, Session.under_eq_resume, Session.resume_bind_ok hout,
    Session.resume_bind_ok hin]
  rfl

end TrafficShaping
