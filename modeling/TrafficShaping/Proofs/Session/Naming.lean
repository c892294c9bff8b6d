/-
What installing and clearing do where a device has no name.

No command can be built for a device without a name, and a session that needs
one ends in a configuration error. When that happens decides what it leaves
behind. Installing builds the commands of all rules before it clears anything,
so it has at most looked at the offload features by then. Clearing builds each
command only when its turn comes: without an interface that is at once, but
without a mirror device it is after the interface's tree was deleted.

Where both devices have names no configuration error comes up at all, unless
the runner makes one up (`march_ne_invalidConfig`). So whichever error comes
up, what was handed over before it is known exactly.
-/
import TrafficShaping.Proofs.Command.Changes
import TrafficShaping.Proofs.Command.Reading
import TrafficShaping.Proofs.Session.Schedule

namespace TrafficShaping

-- ================================================ honest runners

/-- A runner that reports no configuration error of its own: it runs commands
and knows of no configuration. -/
def Runner.KnowsNoConfig (runner : Runner) : Prop :=
  ∀ seen c message, runner seen c ≠ .error (.invalidConfig message)

/-- The fault that a result is when it is not tolerated is a configuration error
only where the result is one. -/
theorem Task.fault_ne_invalidConfig {k : Task} {result : Except Fault CommandOutput}
    (h : ∀ message, result ≠ .error (.invalidConfig message)) (message : String) :
    k.fault result ≠ .invalidConfig message := by
  cases result with
  | error fault =>
      intro heq
      exact h message (congrArg Except.error heq)
  | ok output =>
      obtain ⟨command, purpose⟩ := k
      cases purpose <;> exact fun heq => nomatch heq

/-- Running tasks comes to no configuration error. -/
theorem march_ne_invalidConfig {runner : Runner} (honest : runner.KnowsNoConfig) (t : Transcript)
    (ks : List Task) (message : String) :
    (march runner t ks).1 ≠ .error (.invalidConfig message) := by
  induction ks generalizing t with
  | nil => exact fun h => nomatch h
  | cons k ks ih =>
      simp only [march]
      split
      · exact ih _
      · intro h
        exact Task.fault_ne_invalidConfig (honest t.commands k.command) message
          (Except.error.inj h)

/-- A single task is one more command. -/
theorem march_singleton_commands (runner : Runner) (t : Transcript) (k : Task) :
    (march runner t [k]).2.commands = t.commands ++ [k.command] := by
  simp only [march]
  split <;> rfl

-- ==================================================== steps cut short

/-- Steps up to one that could not be built perform their tasks and then end in
that error. -/
theorem Step.resume_runAll_of_error (steps : List Step) (e : DraftError)
    (rest : List (Except DraftError Step)) (runner : Runner) (t : Transcript) :
    (runAll (steps.map .ok ++ .error e :: rest)).resume runner t
      = match march runner t (steps.map task) with
        | (.ok (), t') => (.error (.invalidConfig e.message), t')
        | (.error fault, t') => (.error fault, t') := by
  have hsplit : ∀ later : List (Except DraftError Step),
      runAll (steps.map .ok ++ later) = runAll (steps.map .ok) >>= fun _ => runAll later := by
    intro later
    induction steps with
    | nil => rfl
    | cons s steps ih =>
        show (s.run >>= fun _ => runAll (steps.map .ok ++ later))
          = (s.run >>= fun _ => runAll (steps.map .ok)) >>= fun _ => runAll later
        rw [ih, bind_assoc]
  rw [hsplit, Session.resume_bind, performs_runAll]
  cases march runner t (steps.map task) with
  | mk result t' => cases result <;> rfl

namespace Shaper

variable {s : Shaper}

-- =========================================================== clearing

/-- Without an interface, clearing fails before anything is handed over. -/
theorem clear_of_unnamed_interface (hi : s.policy.interface = "") (runner : Runner) :
    s.clear.under runner = (.error (.invalidConfig DraftError.emptyDevice.message), .empty) := by
  have hsteps : ∃ rest, clearSteps s.policy = .error .emptyDevice :: rest := by
    unfold clearSteps
    rw [hi]
    exact ⟨_, rfl⟩
  obtain ⟨rest, hsteps⟩ := hsteps
  unfold clear
  rw [hsteps]
  rfl

/-- Without a mirror device, clearing deletes the interface's tree first and
fails after that. -/
theorem clear_of_unnamed_mirror (hi : s.policy.interface ≠ "") (hm : s.policy.mirrorDevice = "")
    (runner : Runner) :
    s.clear.under runner
      = match march runner .empty [⟨Command.deleteRoot s.policy.interface, .deletion⟩] with
        | (.ok (), t) => (.error (.invalidConfig DraftError.emptyDevice.message), t)
        | (.error fault, t) => (.error fault, t) := by
  have hsteps : ∃ rest, clearSteps s.policy
      = List.map .ok [⟨Command.deleteRoot s.policy.interface, .nothingToDelete⟩]
        ++ .error .emptyDevice :: rest := by
    unfold clearSteps
    rw [List.map_cons, List.map_cons, Command.removeRoot_eq hi, hm]
    exact ⟨_, rfl⟩
  obtain ⟨rest, hsteps⟩ := hsteps
  unfold clear
  rw [hsteps, Session.under_eq_resume, Step.resume_runAll_of_error]
  rfl

-- ========================================================= installing

/-- The commands of a compiled rule set cannot be built where its device has no
name. -/
theorem ofRules_compile_of_unnamed {policy : ShapingPolicy} {config : CompilerConfig}
    {d : Direction} (h : policy.deviceFor d = "") :
    Command.ofRules ((compile policy config).get d) = .error .emptyDevice := by
  have hroot : Rule.offence? (.qdisc (Compile.root (Numbering.of d) (policy.deviceFor d)))
      = some .emptyDevice := by
    rw [h]
    rfl
  have hrules : ∃ rest, (Compile.direction d policy config).rules
      = .qdisc (Compile.root (Numbering.of d) (policy.deviceFor d)) :: rest := ⟨_, rfl⟩
  obtain ⟨rest, hrules⟩ := hrules
  rw [compile_get, Command.ofRules_eq_findSome?, hrules, List.findSome?_cons, hroot]
  rfl

/-- Without both names, the commands of all rules cannot be built. -/
theorem plan_not_built (h : s.policy.interface = "" ∨ s.policy.mirrorDevice = "") :
    s.plan.ruleSets.mapM Command.ofRules = .error .emptyDevice := by
  have hmap : s.plan.ruleSets.mapM Command.ofRules = (do
      let outbound ← Command.ofRules (s.plan.get .outbound)
      let inbound ← Command.ofRules (s.plan.get .inbound)
      return [outbound, inbound]) := by
    simp [CompiledPolicy.ruleSets, Direction.all]
  rw [hmap]
  by_cases hi : s.policy.interface = ""
  · have hout : Command.ofRules (s.plan.get .outbound) = .error .emptyDevice :=
      ofRules_compile_of_unnamed hi
    rw [hout]
    rfl
  · have hout : Command.ofRules (s.plan.get .outbound) = .ok _ := ofRules_compile hi
    have hin : Command.ofRules (s.plan.get .inbound) = .error .emptyDevice :=
      ofRules_compile_of_unnamed (h.resolve_left hi)
    rw [hout, hin]
    rfl

/-- Without both names, installing looks at the offload features, if at all,
and fails. -/
theorem apply_of_unnamed (h : s.policy.interface = "" ∨ s.policy.mirrorDevice = "")
    (runner : Runner) :
    s.apply.under runner = match march runner .empty s.inquiryTasks with
      | (.ok (), t) => (.error (.invalidConfig DraftError.emptyDevice.message), t)
      | (.error fault, t) => (.error fault, t) := by
  have hbuilt : Session.built (s.plan.ruleSets.mapM Command.ofRules)
      = throw (.invalidConfig DraftError.emptyDevice.message) := by
    rw [plan_not_built h]
    rfl
  -- the commands of the rules are built right after the look, so that all the
  -- rest of the session falls away
  have hsplit : s.apply = (if s.checksOffload && s.policy.shaping.bandwidth.isSome then
      checkOffload s.policy.interface else pure ()) >>= fun _ =>
        throw (.invalidConfig DraftError.emptyDevice.message) := by
    unfold apply
    simp only [hbuilt]
    split <;> rfl
  rw [hsplit, Session.under_eq_resume, Session.resume_bind, performs_inquiry]
  cases march runner .empty s.inquiryTasks with
  | mk result t => cases result <;> rfl

/-- So installing changes nothing then. -/
theorem not_changes_of_unnamed (h : s.policy.interface = "" ∨ s.policy.mirrorDevice = "")
    {runner : Runner} {c : Command} (hc : c ∈ (s.apply.under runner).2.commands) :
    c.changesPlatform = false := by
  have hinquiry : (s.apply.under runner).2 = (march runner .empty s.inquiryTasks).2 := by
    rw [apply_of_unnamed h]
    cases march runner .empty s.inquiryTasks with
    | mk result t => cases result <;> rfl
  obtain ⟨n, hcommands⟩ := march_commands runner .empty s.inquiryTasks
  rw [hinquiry, hcommands, Transcript.empty_commands, List.nil_append] at hc
  obtain ⟨k, hk, rfl⟩ := List.mem_map.1 hc
  have hmem : k ∈ s.inquiryTasks := List.mem_of_mem_take hk
  unfold inquiryTasks at hmem
  split at hmem
  · obtain rfl := List.mem_singleton.1 hmem
    exact Command.changesPlatform_askFeatures s.policy.interface
  · cases hmem

-- ======================================================== the statement

/-- Where both devices have names, installing comes to no configuration
error. -/
theorem apply_ne_invalidConfig {runner : Runner} (honest : runner.KnowsNoConfig)
    (hi : s.policy.interface ≠ "") (hm : s.policy.mirrorDevice ≠ "") (message : String) :
    (s.apply.under runner).1 ≠ .error (.invalidConfig message) := by
  have hmarch := march_ne_invalidConfig honest .empty s.schedule message
  rcases apply_through_or_stopped hi hm runner with
    ⟨t, warnings, ws, -, happly⟩ | ⟨fault, t, hstopped, happly⟩
  · rw [happly]
    exact fun h => nomatch h
  · rw [happly]
    rw [hstopped] at hmarch
    exact fun h => hmarch (congrArg Except.error (Except.error.inj h))

/-- Under a runner that makes up no configuration error, installing ends in one
only before anything is changed. Clearing ends in one only where a device has
no name: without an interface nothing is handed over, and without a mirror
device the deletion of the interface's tree is all that is. -/
theorem config_errors_by_name (s : Shaper) (runner : Runner) (honest : runner.KnowsNoConfig) :
    (∀ message, (s.apply.under runner).1 = .error (.invalidConfig message) →
        ∀ c ∈ (s.apply.under runner).2.commands, c.changesPlatform = false)
      ∧ ∀ message, (s.clear.under runner).1 = .error (.invalidConfig message) →
        s.policy.interface = "" ∧ (s.clear.under runner).2.commands = []
          ∨ s.policy.interface ≠ "" ∧ s.policy.mirrorDevice = ""
            ∧ (s.clear.under runner).2.commands = [Command.deleteRoot s.policy.interface] := by
  refine ⟨fun message herror c hc => ?_, fun message herror => ?_⟩
  · have hunnamed : s.policy.interface = "" ∨ s.policy.mirrorDevice = "" := by
      by_contra hnamed
      obtain ⟨hi, hm⟩ := not_or.1 hnamed
      exact apply_ne_invalidConfig honest hi hm message herror
    exact not_changes_of_unnamed hunnamed hc
  · by_cases hi : s.policy.interface = ""
    · exact Or.inl ⟨hi, by rw [clear_of_unnamed_interface hi]; rfl⟩
    · by_cases hm : s.policy.mirrorDevice = ""
      · refine Or.inr ⟨hi, hm, ?_⟩
        rw [clear_of_unnamed_mirror hi hm]
        have hone := march_singleton_commands runner .empty
          ⟨Command.deleteRoot s.policy.interface, .deletion⟩
        cases hrun : march runner .empty [⟨Command.deleteRoot s.policy.interface, .deletion⟩] with
        | mk result t =>
            rw [hrun] at hone
            cases result <;> exact hone
      · have hmarch := march_ne_invalidConfig honest .empty (clearTasks s.policy) message
        rw [Session.under_eq_resume, performs_clear hi hm] at herror
        exact absurd herror hmarch

/-- A policy without a mirror device, under a runner whose commands all succeed:
installing hands over nothing, and clearing deletes the interface's tree. -/
theorem config_errors_by_name_without_mirror :
    let s : Shaper := ⟨{ ShapingPolicy.default with mirrorDevice := "" }, .default, true⟩
    Runner.dry.KnowsNoConfig
      ∧ (s.apply.under Runner.dry).1
          = .error (.invalidConfig "Device interface cannot be empty")
      ∧ (∀ c ∈ (s.apply.under Runner.dry).2.commands, c.changesPlatform = false)
      ∧ (s.clear.under Runner.dry).1
          = .error (.invalidConfig "Device interface cannot be empty")
      ∧ (s.policy.interface = "" ∧ (s.clear.under Runner.dry).2.commands = []
          ∨ s.policy.interface ≠ "" ∧ s.policy.mirrorDevice = ""
            ∧ (s.clear.under Runner.dry).2.commands
              = [Command.deleteRoot s.policy.interface]) := by
  intro s
  have honest : Runner.dry.KnowsNoConfig := fun seen c message h => nomatch h
  have happly : (s.apply.under Runner.dry).1
      = .error (.invalidConfig "Device interface cannot be empty") := by
    rw [apply_of_unnamed (Or.inr rfl)]
    rfl
  have hclear : (s.clear.under Runner.dry).1
      = .error (.invalidConfig "Device interface cannot be empty") := by
    rw [clear_of_unnamed_mirror (by decide) rfl]
    decide
  exact ⟨honest, happly, (config_errors_by_name s Runner.dry honest).1 _ happly, hclear,
    (config_errors_by_name s Runner.dry honest).2 _ hclear⟩

/-- Clearing is not free of changes when it ends in a configuration error: the
interface's tree is deleted before the missing name of the mirror device is
noticed. -/
theorem clear_changes_before_config_error :
    let s : Shaper := ⟨{ ShapingPolicy.default with mirrorDevice := "" }, .default, true⟩
    Runner.dry.KnowsNoConfig
      ∧ (s.clear.under Runner.dry).1
          = .error (.invalidConfig "Device interface cannot be empty")
      ∧ ∃ c ∈ (s.clear.under Runner.dry).2.commands, c.changesPlatform = true := by
  intro s
  have hrun : s.clear.under Runner.dry
      = (.error (.invalidConfig "Device interface cannot be empty"),
          ⟨[Command.deleteRoot "eth0"], []⟩) := by
    rw [clear_of_unnamed_mirror (by decide) rfl]
    decide
  refine ⟨fun seen c message h => (nomatch h), by rw [hrun], Command.deleteRoot "eth0", ?_, rfl⟩
  rw [hrun]
  exact List.mem_singleton_self _

end Shaper

end TrafficShaping
