/-
Carrying out an action: which commands a configuration can hand over, under
whatever runner.

A valid configuration has names for both devices. Its commands are then fixed
before the first of them is handed over, for installing as for clearing: a
runner decides how far the session gets with them, and nothing else
(`fixed_act`). Showing what is installed takes queries only (`act_shows`),
though which ones depends on the runner.
-/
import TrafficShaping.Program
import TrafficShaping.Proofs.Session.Inspection
import TrafficShaping.Proofs.Session.Schedule

namespace TrafficShaping

-- ====================================================== configurations

namespace Configuration

variable {c : Configuration}

/-- The parts that a configuration was made of. -/
theorem of_eq_ok {around : Surroundings} {i : Invocation} {ws : List UnreadablePort}
    (h : of around i = .ok (c, ws)) :
    ∃ reading policy policyWarnings, profile around i.profile = .ok reading
      ∧ overlay i (reading.profile.applyTo .default) = .ok (policy, policyWarnings)
      ∧ c =
        { action := i.action
          policy := policy
          compiler :=
            { CompilerConfig.default with
              bufferSize := i.bufferSize.getD CompilerConfig.default.bufferSize }
          logLevel := logLevelOf around i
          dryRun := i.dryRun
          json := i.json
          checksOffload := !i.skipOffloadCheck } := by
  unfold of at h
  cases hprofile : profile around i.profile with
  | error f => rw [hprofile] at h; cases h
  | ok reading =>
      rw [hprofile] at h
      cases hoverlay : overlay i (reading.profile.applyTo ShapingPolicy.default) with
      | error f => simp only [bind, Except.bind, hoverlay] at h; cases h
      | ok result =>
          simp only [bind, Except.bind, hoverlay] at h
          obtain ⟨rfl, -⟩ := Prod.mk.inj (Except.ok.inj h)
          exact ⟨reading, _, _, rfl, hoverlay, rfl⟩

/-- What a command line settles by itself, whatever profile there is. -/
theorem of_fields {around : Surroundings} {i : Invocation} {ws : List UnreadablePort}
    (h : of around i = .ok (c, ws)) :
    c.action = i.action ∧ c.dryRun = i.dryRun ∧ c.checksOffload = !i.skipOffloadCheck := by
  obtain ⟨reading, policy, policyWarnings, -, -, rfl⟩ := of_eq_ok h
  exact ⟨rfl, rfl, rfl⟩

/-- Whether a run is to be dry goes into its configuration and nowhere else. -/
theorem of_withDryRun (around : Surroundings) (i : Invocation) (b : Bool) :
    of around { i with dryRun := b }
      = (of around i).map fun made => ({ made.1 with dryRun := b }, made.2) := by
  unfold of
  cases profile around i.profile with
  | error f => rfl
  | ok reading =>
      -- the overlay reads the fields of the policy, and the flag is none of them
      have hoverlay : overlay { i with dryRun := b } (reading.profile.applyTo .default)
          = overlay i (reading.profile.applyTo .default) := rfl
      simp only [bind, Except.bind, hoverlay]
      cases overlay i (reading.profile.applyTo .default) with
      | error f => rfl
      | ok result => rfl

/-- A valid configuration names both devices. -/
theorem names_of_validate (h : c.validate = .ok ()) :
    c.policy.interface ≠ "" ∧ c.policy.mirrorDevice ≠ "" := by
  unfold validate at h
  split at h
  · cases h
  · split at h
    · cases h
    · next hi hm =>
      exact ⟨fun heq => hi (by rw [heq]; rfl), fun heq => hm (by rw [heq]; rfl)⟩

/-- All that installing or clearing hands over where nothing stands in its
way. -/
def script (c : Configuration) : List Command :=
  match c.action with
  | .apply => c.shaper.schedule.map Task.command ++ c.shaper.followUps
  | .clear => (Shaper.clearTasks c.policy).map Task.command
  | .status => []

end Configuration

-- =================================================== fixed commands

/-- However a run ends, its commands are a front part of all commands. -/
theorem march_isPrefix {runner : Runner} {ks : List Task} {result : Except Fault Unit}
    {t : Transcript} (h : march runner .empty ks = (result, t)) :
    t.commands <+: ks.map Task.command := by
  obtain ⟨n, hcommands⟩ := march_commands runner .empty ks
  rw [h, Transcript.empty_commands, List.nil_append] at hcommands
  rw [hcommands]
  exact (List.take_prefix n ks).map Task.command

/-- A session's commands are fixed: under any runner it hands over a front part
of them, and all of them where it returns. -/
structure Session.Fixed {α : Type} (s : Session α) (commands : List Command) : Prop where
  front : ∀ runner, (s.under runner).2.commands <+: commands
  whole : ∀ runner a, (s.under runner).1 = .ok a → (s.under runner).2.commands = commands

theorem Session.Fixed.map {α β : Type} {s : Session α} {commands : List Command}
    (h : s.Fixed commands) (g : α → β) : (g <$> s).Fixed commands := by
  refine ⟨fun runner => ?_, fun runner b hb => ?_⟩
  · rw [Session.under_map]
    exact h.front runner
  · rw [Session.under_map] at hb ⊢
    cases hresult : (s.under runner).1 with
    | error fault => rw [hresult] at hb; cases hb
    | ok a => exact h.whole runner a hresult

namespace Shaper

variable {s : Shaper}

/-- A clear issues the commands of its schedule, whatever the answers are. -/
theorem fixed_clear (hi : s.policy.interface ≠ "") (hm : s.policy.mirrorDevice ≠ "") :
    s.clear.Fixed ((clearTasks s.policy).map Task.command) := by
  have hrun : ∀ runner, s.clear.under runner = march runner .empty (clearTasks s.policy) :=
    fun runner => performs_clear hi hm runner .empty
  refine ⟨fun runner => ?_, fun runner u hu => ?_⟩
  · exact march_isPrefix (hrun runner).symm
  · have hwhole := march_commands_of_ok ((hrun runner).symm.trans (Prod.ext hu rfl))
    rwa [Transcript.empty_commands, List.nil_append] at hwhole

/-- An apply issues those of its schedule and then looks at its devices. -/
theorem fixed_apply (hi : s.policy.interface ≠ "") (hm : s.policy.mirrorDevice ≠ "") :
    s.apply.Fixed (s.schedule.map Task.command ++ s.followUps) := by
  have hrun : ∀ runner,
      (s.apply.under runner).2.commands <+: s.schedule.map Task.command ++ s.followUps
        ∧ ∀ report, (s.apply.under runner).1 = .ok report →
          (s.apply.under runner).2.commands
            = s.schedule.map Task.command ++ s.followUps := by
    intro runner
    rcases apply_through_or_stopped hi hm runner with
      ⟨t, warnings, ws, hmarch, happly⟩ | ⟨fault, t, hmarch, happly⟩
    · have hwhole := march_commands_of_ok hmarch
      rw [Transcript.empty_commands, List.nil_append] at hwhole
      rw [happly, ← hwhole]
      exact ⟨List.prefix_rfl, fun _ _ => rfl⟩
    · rw [happly]
      exact ⟨(march_isPrefix hmarch).trans (List.prefix_append _ _), fun _ h => nomatch h⟩
  exact ⟨fun runner => (hrun runner).1, fun runner => (hrun runner).2⟩

end Shaper

namespace Program

variable {c : Configuration}

-- ============================================================ actions

/-- Each action is taken by the shaper's session of its name, and the outcome is
made of its result. -/
theorem act_of_apply (h : c.action = .apply) :
    act c = Outcome.ofApply c.policy.interface <$> c.shaper.apply := by
  unfold act
  rw [h]
  rfl

theorem act_of_clear (h : c.action = .clear) :
    act c = (fun _ => Outcome.ofClear c.policy.interface) <$> c.shaper.clear := by
  unfold act
  rw [h]
  rfl

theorem act_of_status (h : c.action = .status) :
    act c = Outcome.ofStatus <$> c.shaper.status := by
  unfold act
  rw [h]
  rfl

/-- The commands of installing and of clearing are fixed by the
configuration. -/
theorem fixed_act (hi : c.policy.interface ≠ "") (hm : c.policy.mirrorDevice ≠ "")
    (haction : c.action ≠ .status) : (act c).Fixed c.script := by
  unfold Configuration.script
  cases hc : c.action with
  | status => exact absurd hc haction
  | clear =>
      rw [act_of_clear hc]
      exact (Shaper.fixed_clear (s := c.shaper) hi hm).map _
  | apply =>
      rw [act_of_apply hc]
      exact (Shaper.fixed_apply hi hm).map _

theorem Run.failed_ne_printed (f : Failure) (output : String) :
    (Run.failed f).ending ≠ .printed output := by
  unfold failed
  split <;> exact fun h => nomatch h

/-- The run of a valid configuration, made dry or made real. -/
theorem runInvocation_of_valid {w : World} {i : Invocation} {ws : List UnreadablePort}
    (hof : Configuration.of w.surroundings i = .ok (c, ws)) (hvalid : c.validate = .ok ())
    (b : Bool) :
    runInvocation w { i with dryRun := b } = if b then dryRun c else realRun w c := by
  have hvalid' : ({ c with dryRun := b } : Configuration).validate = .ok () := hvalid
  unfold runInvocation
  rw [Configuration.of_withDryRun, hof]
  simp only [Except.map, hvalid']
  rfl

/-- The run of an invocation fails for want of a valid configuration, or else it
is a dry run or a real one. -/
theorem runInvocation_cases (w : World) (i : Invocation) :
    (∃ f, Configuration.of w.surroundings i = .error f ∧ runInvocation w i = Run.failed f)
      ∨ ∃ c ws, Configuration.of w.surroundings i = .ok (c, ws)
        ∧ ((∃ f, c.validate = .error f ∧ runInvocation w i = Run.failed f)
          ∨ c.validate = .ok () ∧ c.dryRun = true ∧ runInvocation w i = dryRun c
          ∨ c.validate = .ok () ∧ c.dryRun = false ∧ runInvocation w i = realRun w c) := by
  cases hof : Configuration.of w.surroundings i with
  | error f =>
      refine Or.inl ⟨f, rfl, ?_⟩
      unfold runInvocation
      rw [hof]
  | ok made =>
      obtain ⟨c, ws⟩ := made
      refine Or.inr ⟨c, ws, rfl, ?_⟩
      cases hvalid : c.validate with
      | error f =>
          refine Or.inl ⟨f, rfl, ?_⟩
          unfold runInvocation
          rw [hof]
          simp only [hvalid]
      | ok u =>
          cases hdry : c.dryRun with
          | true =>
              refine Or.inr (Or.inl ⟨rfl, rfl, ?_⟩)
              unfold runInvocation
              rw [hof]
              simp only [hvalid, hdry, if_true]
          | false =>
              refine Or.inr (Or.inr ⟨rfl, rfl, ?_⟩)
              unfold runInvocation
              rw [hof]
              simp only [hvalid, hdry, Bool.false_eq_true, if_false]

/-- The commands of a real run are those of its action, or none. -/
theorem realRun_cases (w : World) (c : Configuration) :
    (∃ f, gates w c = .error f ∧ realRun w c = Run.failed f)
      ∨ gates w c = .ok () ∧ (realRun w c).executed = ((act c).under w.runner).2.commands
        ∧ ((∃ o, ((act c).under w.runner).1 = .ok o
              ∧ (realRun w c).ending = .printed (o.print c.json))
          ∨ ∃ fault, ((act c).under w.runner).1 = .error fault
              ∧ (realRun w c).ending = .failed (.fault fault)) := by
  unfold realRun
  cases hgates : gates w c with
  | error f => exact Or.inl ⟨f, rfl, rfl⟩
  | ok u =>
      refine Or.inr ⟨rfl, ?_⟩
      cases hact : (act c).under w.runner with
      | mk result t =>
          cases result with
          | ok o => exact ⟨rfl, Or.inl ⟨o, rfl, rfl⟩⟩
          | error fault => exact ⟨rfl, Or.inr ⟨fault, rfl, rfl⟩⟩

/-- Where an action's commands are fixed, a real run executes a front part of
them. -/
theorem realRun_isPrefix {commands : List Command} (h : (act c).Fixed commands) (w : World) :
    (realRun w c).executed <+: commands := by
  rcases realRun_cases w c with ⟨f, -, hfailed⟩ | ⟨-, hexecuted, -⟩
  · rw [hfailed]
    exact List.nil_prefix
  · rw [hexecuted]
    exact h.front w.runner

/-- A real run that succeeds executes all of them. -/
theorem realRun_of_printed {commands : List Command} (h : (act c).Fixed commands) {w : World}
    {output : String} (hprinted : (realRun w c).ending = .printed output) :
    (realRun w c).executed = commands := by
  rcases realRun_cases w c with ⟨f, -, hfailed⟩ | ⟨-, hexecuted, hreturned | hfault⟩
  · rw [hfailed] at hprinted
    exact absurd hprinted (Run.failed_ne_printed f output)
  · obtain ⟨o, hok, -⟩ := hreturned
    rw [hexecuted]
    exact h.whole w.runner o hok
  · obtain ⟨fault, -, hending⟩ := hfault
    rw [hending] at hprinted
    cases hprinted

end Program

end TrafficShaping
