/-
What a valid configuration can rely on (`valid_is_sound`).

Validating looks at names, at the buffer and at the stages, and at no command.
Yet it settles that every command can be built: all that can go wrong in
building one that is ever issued is a device without a name. So the sessions
of a valid configuration end in a configuration error only if the runner makes
one up, and what they install has the stages that were asked for, with room
for packets in the queue.
-/
import TrafficShaping.Proofs.Program.Acting
import TrafficShaping.Proofs.Session.Naming

namespace TrafficShaping

-- ==================================================== statement vocabulary

/-- A session ends in no configuration error unless the runner makes one up. -/
def Session.NeverBlamesConfig {α : Type} (s : Session α) : Prop :=
  ∀ runner : Runner, runner.KnowsNoConfig →
    ∀ message, (s.under runner).1 ≠ .error (.invalidConfig message)

/-- The limit that a discipline's parameters end in. -/
def Qdisc.limit? (q : Qdisc) : Option Nat :=
  match q.params.reverse with
  | count :: word :: _ =>
    if word = "limit" then (Text.readNumeral 4294967295 count.toList).toOption else none
  | _ => none

/-- What a valid configuration can rely on. -/
structure Configuration.Sound (c : Configuration) : Prop where
  apply_unblamed : c.shaper.apply.NeverBlamesConfig
  clear_unblamed : c.shaper.clear.NeverBlamesConfig
  status_unblamed : c.shaper.status.NeverBlamesConfig
  /-- The commands of both rule sets can be built. -/
  built : ∀ d, ∃ commands,
    Command.ofRules ((compile c.policy c.compiler).get d) = .ok commands
  apart : (compile c.policy c.compiler).outbound.device
    ≠ (compile c.policy c.compiler).inbound.device
  /-- Installing shapes in both directions. -/
  staged : c.action = .apply → ∀ d, ∃ q ∈ ((compile c.policy c.compiler).get d).qdiscs,
    q.kind = .tbf ∨ q.kind = .netem
  /-- No emulator is installed without room for packets. -/
  limited : ∀ d, ∀ q ∈ ((compile c.policy c.compiler).get d).qdiscs, q.kind = .netem →
    ∃ n, q.limit? = some n ∧ 0 < n

-- ================================================= faults of the runner

namespace Session

variable {α β : Type}

/-- Every fault that a session ends in is one that the runner answered with. -/
def PassesFaultsOn (s : Session α) : Prop :=
  ∀ runner t fault, (s.resume runner t).1 = .error fault → ∃ seen c, runner seen c = .error fault

theorem passesFaultsOn_pure (a : α) : (pure a : Session α).PassesFaultsOn :=
  fun _ _ _ h => nomatch h

/-- A command that is run passes the runner's fault on. -/
theorem passesFaultsOn_issue (c : Command) : (issue c).PassesFaultsOn := by
  intro runner t fault h
  rw [resume_issue] at h
  exact ⟨t.commands, c, h⟩

/-- Sessions one after the other pass on the faults that each of them does. -/
theorem PassesFaultsOn.bind {s : Session α} {k : α → Session β} (hs : s.PassesFaultsOn)
    (hk : ∀ a, (k a).PassesFaultsOn) : (s >>= k).PassesFaultsOn := by
  intro runner t fault h
  rw [resume_bind] at h
  cases hrun : s.resume runner t with
  | mk result t' =>
      rw [hrun] at h
      cases result with
      | ok a => exact hk a runner t' fault h
      | error f =>
          have hfault : (s.resume runner t).1 = .error f := by rw [hrun]
          rw [← Except.error.inj h]
          exact hs runner t f hfault

/-- With an honest runner, faults that are passed on never blame the
configuration. -/
theorem PassesFaultsOn.neverBlamesConfig {s : Session α} (h : s.PassesFaultsOn) :
    s.NeverBlamesConfig := by
  intro runner honest message herror
  rw [under_eq_resume] at herror
  obtain ⟨seen, c, hanswer⟩ := h runner .empty _ herror
  exact honest seen c message hanswer

end Session

/-- Looking at a device with a name has no fault of its own. -/
theorem DeviceStatus.collect_passesFaultsOn {p : ShapingPolicy} {d : Direction}
    (h : p.deviceFor d ≠ "") : (DeviceStatus.collect p d).PassesFaultsOn := by
  unfold collect
  simp only [Command.showQdiscs_counts h, Command.showFilters_eq h, Session.built, pure_bind]
  refine (Session.passesFaultsOn_issue _).bind fun qdiscs => ?_
  split
  · exact Session.passesFaultsOn_pure _
  · split
    · exact Session.passesFaultsOn_pure _
    · refine (Session.passesFaultsOn_issue _).bind fun filters => ?_
      split
      · exact Session.passesFaultsOn_pure _
      · exact Session.passesFaultsOn_pure _

-- =================================================== the three sessions

namespace Shaper

variable {s : Shaper}

/-- Installing between named devices never blames the configuration. -/
theorem apply_neverBlamesConfig (hi : s.policy.interface ≠ "") (hm : s.policy.mirrorDevice ≠ "") :
    s.apply.NeverBlamesConfig :=
  fun _ honest message => apply_ne_invalidConfig honest hi hm message

/-- Nor does clearing. -/
theorem clear_neverBlamesConfig (hi : s.policy.interface ≠ "") (hm : s.policy.mirrorDevice ≠ "") :
    s.clear.NeverBlamesConfig := by
  intro runner honest message
  rw [Session.under_eq_resume, performs_clear hi hm]
  exact march_ne_invalidConfig honest .empty (clearTasks s.policy) message

/-- Nor does showing what is installed. -/
theorem status_neverBlamesConfig (hi : s.policy.interface ≠ "")
    (hm : s.policy.mirrorDevice ≠ "") : s.status.NeverBlamesConfig := by
  refine Session.PassesFaultsOn.neverBlamesConfig ?_
  unfold status
  rw [StatusReport.collect_eq]
  exact (DeviceStatus.collect_passesFaultsOn (d := .outbound) hi).bind fun _ =>
    (DeviceStatus.collect_passesFaultsOn (d := .inbound) hm).bind fun _ =>
      Session.passesFaultsOn_pure _

end Shaper

-- ========================================================== the rules

/-- The commands of a compiled rule set can be built exactly where its device
has a name. -/
theorem exists_ofRules_compile_iff (policy : ShapingPolicy) (config : CompilerConfig)
    (d : Direction) :
    (∃ commands, Command.ofRules ((compile policy config).get d) = .ok commands)
      ↔ policy.deviceFor d ≠ "" := by
  constructor
  · rintro ⟨commands, hbuilt⟩ hunnamed
    rw [Shaper.ofRules_compile_of_unnamed hunnamed] at hbuilt
    cases hbuilt
  · intro hnamed
    exact ⟨_, Shaper.ofRules_compile hnamed⟩

namespace Compile

variable {policy : ShapingPolicy} {config : CompilerConfig} {d : Direction}

/-- A policy that shapes something has a limit or an impairment in either rule
set. -/
theorem exists_stage (h : policy.shaping.isEmpty = false) :
    ∃ q ∈ (direction d policy config).qdiscs, q.kind = .tbf ∨ q.kind = .netem := by
  cases hlimit : policy.shaping.bandwidth with
  | some ps =>
      exact ⟨_, mem_qdiscs.2 (Or.inr (mem_stages.2 (Or.inl ⟨ps, hlimit, rfl⟩))), Or.inl rfl⟩
  | none =>
      cases himpair : policy.shaping.impairment with
      | some ps =>
          exact ⟨_, mem_qdiscs.2 (Or.inr (mem_stages.2 (Or.inr ⟨ps, himpair, rfl⟩))), Or.inr rfl⟩
      | none =>
          unfold ShapingSpec.isEmpty at h
          rw [hlimit, himpair] at h
          cases h

/-- Whatever the user's parameters are, the limit that counts comes last. -/
theorem limit?_impairment (n : Numbering) (device : String) (limited reorder : Bool)
    (ps : RawParams) :
    (impairment n device config limited reorder ps).limit? = some config.bufferSize.toNat := by
  have hwords : (impairment n device config limited reorder ps).params.reverse
      = config.bufferSize.toNat.repr :: "limit"
        :: ((if reorder then [] else ["rate", config.reorderRate]) ++ ps.words).reverse := by
    show (impairmentWords config reorder ps).reverse = _
    unfold impairmentWords
    simp
  have hbound : config.bufferSize.toNat ≤ 4294967295 :=
    Nat.le_of_lt_succ config.bufferSize.toNat_lt
  unfold Qdisc.limit?
  rw [hwords]
  simp only [if_true]
  rw [Nat.toList_repr, Text.readNumeral_toDigits hbound]
  rfl

/-- An emulator has room for as many packets as the settings say. -/
theorem limit?_of_netem {q : Qdisc} (hq : q ∈ (direction d policy config).qdiscs)
    (hkind : q.kind = .netem) : q.limit? = some config.bufferSize.toNat := by
  rcases mem_qdiscs.1 hq with rfl | hstage
  · cases hkind
  · rcases mem_stages.1 hstage with ⟨ps, -, rfl⟩ | ⟨ps, -, rfl⟩
    · cases hkind
    · exact limit?_impairment ..

end Compile

-- ======================================================== the statement

namespace Configuration

variable {c : Configuration}

/-- What validating finds out. -/
theorem facts_of_validate (h : c.validate = .ok ()) :
    c.policy.interface ≠ c.policy.mirrorDevice ∧ c.compiler.bufferSize ≠ 0
      ∧ (c.action = .apply → c.policy.shaping.isEmpty = false) := by
  unfold validate at h
  split at h
  · cases h
  split at h
  · cases h
  split at h
  · cases h
  split at h
  · cases h
  split at h
  · cases h
  next hsame hbuffer hstages =>
    refine ⟨fun heq => hsame ?_, fun heq => hbuffer ?_, fun happly => ?_⟩
    · rw [heq, beq_self_eq_true]
    · rw [heq, beq_self_eq_true]
    · rw [happly] at hstages
      simpa using hstages

end Configuration

/-- A valid configuration comes to no error of configuration and installs what
it asks for; and of any policy whatsoever, valid or not, the rules of a
direction can be laid out as commands exactly where its device has a name. -/
theorem valid_is_sound :
    (∀ c : Configuration, c.validate = .ok () → c.Sound)
      ∧ ∀ (policy : ShapingPolicy) (config : CompilerConfig) (d : Direction),
        (∃ commands, Command.ofRules ((compile policy config).get d) = .ok commands)
          ↔ policy.deviceFor d ≠ "" := by
  refine ⟨fun c hvalid => ?_, exists_ofRules_compile_iff⟩
  obtain ⟨hi, hm⟩ := Configuration.names_of_validate hvalid
  obtain ⟨hapart, hbuffer, hstages⟩ := Configuration.facts_of_validate hvalid
  exact {
    apply_unblamed := Shaper.apply_neverBlamesConfig hi hm
    clear_unblamed := Shaper.clear_neverBlamesConfig hi hm
    status_unblamed := Shaper.status_neverBlamesConfig hi hm
    built := by
      intro d
      refine (exists_ofRules_compile_iff c.policy c.compiler d).2 ?_
      cases d with
      | outbound => exact hi
      | inbound => exact hm
    apart := hapart
    staged := by
      intro happly d
      rw [compile_get]
      exact Compile.exists_stage (hstages happly)
    limited := by
      intro d q hq hkind
      rw [compile_get] at hq
      refine ⟨_, Compile.limit?_of_netem hq hkind, Nat.pos_of_ne_zero fun hzero => hbuffer ?_⟩
      exact UInt32.toNat_inj.1 hzero }

/-- An impairment whose own parameters end in a limit of nothing: installing it
is sound, and the limit that counts is the buffer's. -/
theorem valid_is_sound_with_own_limit :
    let c : Configuration :=
      { action := .apply
        policy := { ShapingPolicy.default with
          shaping := ⟨none, some ⟨"delay 100ms limit 0"⟩, false⟩ }
        compiler := .default, logLevel := .info, dryRun := false, json := false
        checksOffload := true }
    c.validate = .ok () ∧ c.Sound
      ∧ ∃ q ∈ (compile c.policy c.compiler).inbound.qdiscs, q.limit? = some 10000 := by
  intro c
  have hvalid : c.validate = .ok () := by decide
  refine ⟨hvalid, valid_is_sound.1 c hvalid, ?_⟩
  refine ⟨Compile.impairment (Numbering.of .inbound) "ifb0" .default false false
    ⟨"delay 100ms limit 0"⟩, List.mem_cons_of_mem _ (List.mem_singleton_self _), ?_⟩
  exact Compile.limit?_impairment ..

end TrafficShaping
