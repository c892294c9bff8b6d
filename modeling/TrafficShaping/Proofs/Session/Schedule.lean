/-
What installing and clearing a policy do, command by command, under any
runner (`apply_and_clear_follow_schedule`).

Installing has a schedule that the policy and the settings fix before
anything is run: look at the offload features where a limit depends on them,
clear, redirect, install the rules. The session hands its commands over in
that order up to the first result that is not tolerated, and ends there in
that result's fault. Only when the whole schedule is through are the devices
looked at once more, and nothing that is seen then makes the session fail.
-/
import TrafficShaping.Proofs.Command.Words
import TrafficShaping.Proofs.Rules.Tree
import TrafficShaping.Proofs.Session.Tasks

namespace TrafficShaping

namespace Shaper

-- ======================================================= the schedules

/-- Clearing: both trees, the ingress hook, and the mirror device, none of
which need be there. -/
def clearTasks (p : ShapingPolicy) : List Task :=
  [⟨Command.deleteRoot p.interface, .deletion⟩, ⟨Command.deleteRoot p.mirrorDevice, .deletion⟩,
    ⟨Command.deleteIngress p.interface, .deletion⟩, ⟨Command.deleteLink p.mirrorDevice, .deletion⟩]

/-- Redirecting: a mirror device that may be there already, and its feed. -/
def redirectTasks (p : ShapingPolicy) : List Task :=
  [⟨Command.addMirror p.mirrorDevice, .creation⟩, ⟨Command.bringUp p.mirrorDevice, .change⟩,
    ⟨Command.addIngress p.interface, .change⟩,
    ⟨Command.feedMirror p.interface p.mirrorDevice, .change⟩]

/-- Commands that have to succeed. -/
def changes (commands : List Command) : List Task := commands.map fun c => ⟨c, .change⟩

/-- The commands of all rules, outbound before inbound. -/
def ruleCommands (s : Shaper) : List Command :=
  Command.installRules s.plan.outbound ++ Command.installRules s.plan.inbound

/-- The look at the offload features, taken only for a bandwidth limit and
only where it is asked for. -/
def inquiryTasks (s : Shaper) : List Task :=
  if s.checksOffload && s.policy.shaping.bandwidth.isSome then
    [⟨Command.askFeatures s.policy.interface, .inquiry s.policy.interface⟩]
  else []

/-- Everything that installing the policy has to get through. -/
def schedule (s : Shaper) : List Task :=
  s.inquiryTasks ++ (clearTasks s.policy ++ (redirectTasks s.policy ++ changes s.ruleCommands))

/-- The look at both devices once the rules are in, taken only where the
impairment is to keep the order of packets. -/
def followUps (s : Shaper) : List Command :=
  if s.policy.shaping.keepsOrder then
    [Command.showOn s.policy.interface, Command.showOn s.policy.mirrorDevice]
  else []

-- =============================================== the parts perform them

/-- Asking for the offload features performs the inquiry. -/
theorem performs_checkOffload (interface : String) :
    (checkOffload interface).Performs
      [⟨Command.askFeatures interface, .inquiry interface⟩] := by
  intro runner t
  unfold checkOffload
  rw [Command.showFeatures_eq, Session.resume_bind_ok (Session.resume_attempt _ _ _)]
  simp only [march]
  cases runner t.commands (Command.askFeatures interface) with
  | error fault => rfl
  | ok output =>
      cases hsuccess : output.success with
      | false => simp [hsuccess, Purpose.Tolerates, Purpose.warnings]
      | true =>
          simp only [hsuccess, Purpose.Tolerates, ← Offload.enabled_eq_nil_iff]
          cases henabled : Offload.enabled output.stdout with
          | nil => simp [hsuccess, Purpose.warnings]
          | cons feature features => simp [henabled, hsuccess, Purpose.warnings, Task.fault]

variable {s : Shaper}

/-- Clearing takes the steps of its schedule. -/
theorem performs_clear (hi : s.policy.interface ≠ "") (hm : s.policy.mirrorDevice ≠ "") :
    s.clear.Performs (clearTasks s.policy) := by
  have hsteps : clearSteps s.policy
      = List.map .ok [⟨Command.deleteRoot s.policy.interface, .nothingToDelete⟩,
          ⟨Command.deleteRoot s.policy.mirrorDevice, .nothingToDelete⟩,
          ⟨Command.deleteIngress s.policy.interface, .nothingToDelete⟩,
          ⟨Command.deleteLink s.policy.mirrorDevice, .nothingToDelete⟩] := by
    unfold clearSteps
    rw [List.map_cons, List.map_cons, Command.removeRoot_eq hi, Command.removeRoot_eq hm,
      Command.removeRedirect_eq hi]
    rfl
  unfold clear
  rw [hsteps]
  exact Step.performs_runAll _

theorem performs_redirect {p : ShapingPolicy} (hi : p.interface ≠ "") :
    (Step.runAll (redirectSteps p)).Performs (redirectTasks p) := by
  have hsteps : redirectSteps p
      = List.map .ok [⟨Command.addMirror p.mirrorDevice, .alreadyThere⟩,
          ⟨Command.bringUp p.mirrorDevice, .none⟩, ⟨Command.addIngress p.interface, .none⟩,
          ⟨Command.feedMirror p.interface p.mirrorDevice, .none⟩] := by
    unfold redirectSteps
    rw [Command.createMirror_eq, Command.redirect_eq hi]
    rfl
  rw [hsteps]
  exact Step.performs_runAll _

/-- Rules are plain changes, one a command. -/
theorem performs_rules (commands : List Command) :
    (Step.runAll (ruleSteps commands)).Performs (changes commands) := by
  have hsteps : ruleSteps commands
      = List.map .ok (commands.map fun c => ⟨c, .none⟩) := by
    simp [ruleSteps, Step.each]
  have htasks : changes commands
      = (commands.map fun c => (⟨c, .none⟩ : Step)).map Step.task := by
    simp [changes, Step.task, Tolerance.purpose]
  rw [hsteps, htasks]
  exact Step.performs_runAll _

/-- The commands of a compiled rule set can be built where its device has a
name. -/
theorem ofRules_compile {policy : ShapingPolicy} {config : CompilerConfig} {d : Direction}
    (h : policy.deviceFor d ≠ "") :
    Command.ofRules ((compile policy config).get d)
      = .ok (Command.installRules ((compile policy config).get d)) := by
  rw [compile_get]
  refine Command.ofRules_eq (fun q hq => ⟨?_, ?_⟩) (fun f hf => ⟨?_, ?_⟩)
  · rw [Compile.qdisc_device hq]
    exact h
  · exact Compile.isQdisc_of_mem_qdiscHandles (Compile.handle_mem_qdiscHandles hq)
  · rw [(Compile.filter_facts hf).1]
    exact h
  · obtain ⟨-, -, -, net, rest, hterms | hterms⟩ := Compile.filter_facts hf <;>
      simp [hterms]

/-- The commands of both rule sets can be built where both devices have
names. -/
theorem plan_built (hi : s.policy.interface ≠ "") (hm : s.policy.mirrorDevice ≠ "") :
    s.plan.ruleSets.mapM Command.ofRules
      = .ok [Command.installRules s.plan.outbound, Command.installRules s.plan.inbound] := by
  have hall : ∀ r ∈ s.plan.ruleSets, Command.ofRules r = .ok (Command.installRules r) := by
    intro r hr
    obtain ⟨d, -, rfl⟩ := List.mem_map.1 hr
    cases d with
    | outbound => exact ofRules_compile (d := .outbound) hi
    | inbound => exact ofRules_compile (d := .inbound) hm
  exact Command.mapM_eq_ok hall

-- ================================================ after the rules are in

/-- What there is to say about a device, given what came of the query. -/
def adviceOn (device : String) : Except Fault CommandOutput → Option Advisory
  | .error fault => some (.unverified device fault.message)
  | .ok output =>
    if output.success then Advisory.ofShown? device output.stdout
    else some (.unverified device output.stderr)

/-- Advice on a device takes one look at it, and no failure of that look is one
of the session. -/
theorem resume_advisory? {device : String} (h : device ≠ "") (runner : Runner) (t : Transcript) :
    (advisory? device).resume runner t
      = (.ok (adviceOn device (runner t.commands (Command.showOn device))),
          t.issue (Command.showOn device)) := by
  unfold advisory?
  rw [Command.showQdiscs_eq h]
  simp only []
  rw [Session.resume_bind_ok (Session.resume_attempt _ _ _)]
  cases runner t.commands (Command.showOn device) with
  | error fault => rfl
  | ok output =>
      cases hsuccess : output.success <;> simp [adviceOn, hsuccess]

/-- What there is to say about devices that are queried one after the other. -/
def advice (runner : Runner) : List Command → List String → List Advisory
  | _, [] => []
  | seen, device :: devices =>
    (adviceOn device (runner seen (Command.showOn device))).toList
      ++ advice runner (seen ++ [Command.showOn device]) devices

/-- Every device is queried once, in order, and what there is to say about it is
given as a warning and passed on, whatever came of the query. -/
theorem resume_advisories {devices : List String} (h : ∀ device ∈ devices, device ≠ "")
    (runner : Runner) (t : Transcript) :
    (advisories devices).resume runner t
      = (.ok (advice runner t.commands devices),
          ⟨t.commands ++ devices.map Command.showOn,
            t.warnings ++ (advice runner t.commands devices).map .advisory⟩) := by
  induction devices generalizing t with
  | nil => simp [advisories, advice]
  | cons device devices ih =>
      have hhead := resume_advisory? (h device (List.mem_cons_self ..)) runner t
      have htail := ih fun d hd => h d (List.mem_cons_of_mem _ hd)
      unfold advisories advice
      rw [Session.resume_bind_ok hhead]
      cases adviceOn device (runner t.commands (Command.showOn device)) with
      | none => simp [htail]
      | some a => simp [Session.resume_bind, Session.resume_map, htail, Except.map]

-- ============================================================ the whole

/-- What installing has to get through, as a session of its own. -/
def getThrough (s : Shaper) : Session Unit := do
  (if s.checksOffload && s.policy.shaping.bandwidth.isSome then
    checkOffload s.policy.interface else pure ())
  s.clear
  Step.runAll (redirectSteps s.policy)
  Step.runAll (ruleSteps s.ruleCommands)

/-- What installing does once it is through. -/
def lookAndReport (s : Shaper) : Session ApplyReport := do
  let warnings ←
    if s.policy.shaping.keepsOrder then advisories [s.policy.interface, s.policy.mirrorDevice]
    else pure []
  return ⟨s.plan, s.ruleCommands.length, warnings⟩

/-- Installing is to get through, then to look and report. -/
theorem apply_eq (hi : s.policy.interface ≠ "") (hm : s.policy.mirrorDevice ≠ "") :
    s.apply = s.getThrough >>= fun _ => s.lookAndReport := by
  have hbuilt : Session.built (s.plan.ruleSets.mapM Command.ofRules)
      = pure [Command.installRules s.plan.outbound, Command.installRules s.plan.inbound] := by
    rw [plan_built hi hm]
    rfl
  have hflat : [Command.installRules s.plan.outbound,
      Command.installRules s.plan.inbound].flatten = s.ruleCommands := by
    simp [ruleCommands]
  have hdevices : s.plan.ruleSets.map (·.device)
      = [s.policy.interface, s.policy.mirrorDevice] := rfl
  unfold apply getThrough lookAndReport
  simp only [hbuilt, hdevices, pure_bind, hflat, bind_assoc]
  split <;> simp

/-- The look at the offload features, whatever the names of the devices. -/
theorem performs_inquiry (s : Shaper) :
    (if s.checksOffload && s.policy.shaping.bandwidth.isSome then
      checkOffload s.policy.interface else pure ()).Performs s.inquiryTasks := by
  unfold inquiryTasks
  split
  · exact performs_checkOffload _
  · exact Session.performs_pure

/-- The part of an apply that can fail takes its schedule, from the inquiry to
the last rule. -/
theorem performs_getThrough (hi : s.policy.interface ≠ "") (hm : s.policy.mirrorDevice ≠ "") :
    s.getThrough.Performs s.schedule :=
  (performs_inquiry s).seq
    ((performs_clear hi hm).seq ((performs_redirect hi).seq (performs_rules _)))

/-- What there is to say once the rules are in, where the impairment is to keep
the order of packets. -/
def finalAdvice (s : Shaper) (runner : Runner) (seen : List Command) : List Advisory :=
  if s.policy.shaping.keepsOrder then
    advice runner seen [s.policy.interface, s.policy.mirrorDevice]
  else []

/-- What comes after it cannot fail: it looks at the devices and reports. -/
theorem resume_lookAndReport (hi : s.policy.interface ≠ "") (hm : s.policy.mirrorDevice ≠ "")
    (runner : Runner) (t : Transcript) :
    s.lookAndReport.resume runner t
      = (.ok ⟨s.plan, s.ruleCommands.length, s.finalAdvice runner t.commands⟩,
          ⟨t.commands ++ s.followUps,
            t.warnings ++ (s.finalAdvice runner t.commands).map .advisory⟩) := by
  have hnames : ∀ device ∈ [s.policy.interface, s.policy.mirrorDevice], device ≠ "" := by
    simp [hi, hm]
  unfold lookAndReport followUps finalAdvice
  split
  · rw [Session.resume_bind_ok (resume_advisories hnames runner t)]
    rfl
  · simp

/-- Installing runs the schedule; when that is through, all that is left is to
look at the devices and report. -/
theorem resume_apply (hi : s.policy.interface ≠ "") (hm : s.policy.mirrorDevice ≠ "")
    (runner : Runner) (t : Transcript) :
    ∃ warnings ws, s.apply.resume runner t = match march runner t s.schedule with
      | (.ok (), t') =>
        (.ok ⟨s.plan, s.ruleCommands.length, warnings⟩,
          ⟨t'.commands ++ s.followUps, t'.warnings ++ ws⟩)
      | (.error fault, t') => (.error fault, t') := by
  rw [apply_eq hi hm, Session.resume_bind, performs_getThrough hi hm]
  cases march runner t s.schedule with
  | mk result t' =>
      cases result with
      | ok u => exact ⟨_, _, resume_lookAndReport hi hm runner t'⟩
      | error fault => exact ⟨[], [], rfl⟩

/-- Installing is through with its schedule and reports, or it ended where the
schedule did. -/
theorem apply_through_or_stopped (hi : s.policy.interface ≠ "") (hm : s.policy.mirrorDevice ≠ "")
    (runner : Runner) :
    (∃ t warnings ws, march runner .empty s.schedule = (.ok (), t)
        ∧ s.apply.under runner = (.ok ⟨s.plan, s.ruleCommands.length, warnings⟩,
            ⟨t.commands ++ s.followUps, t.warnings ++ ws⟩))
      ∨ ∃ fault t, march runner .empty s.schedule = (.error fault, t)
        ∧ s.apply.under runner = (.error fault, t) := by
  obtain ⟨warnings, ws, happly⟩ := resume_apply hi hm runner .empty
  rw [← Session.under_eq_resume] at happly
  cases hmarch : march runner .empty s.schedule with
  | mk result t =>
      rw [hmarch] at happly
      cases result with
      | ok u => exact Or.inl ⟨t, warnings, ws, rfl, happly⟩
      | error fault => exact Or.inr ⟨fault, t, rfl, happly⟩

end Shaper

-- ======================================================== the statement

/-- A session follows a schedule under a runner. Where every result is
tolerated it hands over the whole schedule and then the commands `afterwards`,
and returns a value of this kind whatever came of those. Where some result is
not, the first such ends it: the schedule is handed over up to and with that
command and nothing after it, and the session ends in that result's fault. -/
structure Session.Follows {α : Type} (s : Session α) (runner : Runner) (ks : List Task)
    (afterwards : List Command) (value : α → Prop) : Prop where
  through : AllTolerated runner [] ks ks.length →
    ∃ a, value a ∧ (s.under runner).1 = .ok a
      ∧ (s.under runner).2.commands = ks.map Task.command ++ afterwards
  stopped : ∀ i (hi : i < ks.length), AllTolerated runner [] ks i →
    ¬ ks[i].purpose.Tolerates (reply runner [] ks i hi) →
    (∃ fault, ks[i].Blames (reply runner [] ks i hi) fault ∧ (s.under runner).1 = .error fault)
      ∧ (s.under runner).2.commands = (ks.take (i + 1)).map Task.command

namespace Shaper

/-- Under every runner, installing follows its schedule and reports what was
compiled and how many rules that took, and clearing follows the four
deletions. -/
theorem apply_and_clear_follow_schedule (s : Shaper) (runner : Runner)
    (hi : s.policy.interface ≠ "") (hm : s.policy.mirrorDevice ≠ "") :
    s.apply.Follows runner s.schedule s.followUps
        (fun report => report.compiled = s.plan ∧ report.rulesInstalled = s.ruleCommands.length)
      ∧ s.clear.Follows runner (clearTasks s.policy) [] (fun _ => True) := by
  have hclear : s.clear.under runner = march runner .empty (clearTasks s.policy) :=
    performs_clear hi hm runner .empty
  obtain ⟨warnings, ws, happly⟩ := resume_apply hi hm runner .empty
  rw [← Session.under_eq_resume] at happly
  refine ⟨⟨fun hall => ?_, fun i hlt hbefore hrefused => ?_⟩,
    ⟨fun hall => ?_, fun i hlt hbefore hrefused => ?_⟩⟩
  · obtain ⟨us, hmarch⟩ := march_of_all_tolerated (t := .empty) hall
    rw [hmarch] at happly
    refine ⟨_, ⟨rfl, rfl⟩, by rw [happly], ?_⟩
    rw [happly]
    rfl
  · obtain ⟨us, hmarch⟩ := march_of_first_refused (t := .empty) hlt hbefore hrefused
    rw [hmarch] at happly
    exact ⟨⟨_, Task.blames_iff.2 rfl, by rw [happly]; rfl⟩, by rw [happly]; rfl⟩
  · obtain ⟨us, hmarch⟩ := march_of_all_tolerated (t := .empty) hall
    refine ⟨(), trivial, by rw [hclear, hmarch], ?_⟩
    rw [hclear, hmarch, List.append_nil]
    rfl
  · obtain ⟨us, hmarch⟩ := march_of_first_refused (t := .empty) hlt hbefore hrefused
    exact ⟨⟨_, Task.blames_iff.2 rfl, by rw [hclear, hmarch]; rfl⟩, by rw [hclear, hmarch]; rfl⟩

/-- Where no program can be run at all, the look at the features is passed
over and the first deletion is the end of it. -/
theorem apply_and_clear_follow_schedule_without_programs :
    let s : Shaper :=
      ⟨{ ShapingPolicy.default with
          shaping := ⟨some ⟨"rate 1mbit burst 32kbit"⟩, some ⟨"delay 50ms 10ms"⟩, false⟩ },
        CompilerConfig.default, true⟩
    let runner : Runner := fun _ _ => .error (.io "No such file or directory (os error 2)")
    s.policy.interface ≠ "" ∧ s.policy.mirrorDevice ≠ ""
      ∧ s.apply.Follows runner s.schedule s.followUps
          (fun report => report.compiled = s.plan
            ∧ report.rulesInstalled = s.ruleCommands.length)
      ∧ s.clear.Follows runner (clearTasks s.policy) [] (fun _ => True) := by
  intro s runner
  have hi : s.policy.interface ≠ "" := by decide
  have hm : s.policy.mirrorDevice ≠ "" := by decide
  exact ⟨hi, hm, apply_and_clear_follow_schedule s runner hi hm⟩

end Shaper

end TrafficShaping
