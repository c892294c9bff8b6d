/-
A dry run shows what a real run does (`dryRun_rehearses_real_runs`).

The dry run plays the action through on a runner whose commands all succeed in
silence, so it never stops early and has nothing to warn of. What it prints is
then the whole script of the configuration, below what it has to report of the
action, and a real run gets through a front part of the same script: how the
tools behave decides where it stops, and never what comes next.
-/
import TrafficShaping.Proofs.Program.Acting
import TrafficShaping.Proofs.Program.Printing

namespace TrafficShaping

-- ================================================ played through dry

/-- A command that succeeds in silence gives nothing to say. -/
theorem Purpose.warnings_silence (p : Purpose) :
    p.warnings (.ok (CommandOutput.ok "")) = [] := by
  cases p <;> rfl

/-- Played through dry, tasks hand over all their commands and say nothing. -/
theorem march_dry (t : Transcript) (ks : List Task) :
    march Runner.dry t ks = (.ok (), ⟨t.commands ++ ks.map Task.command, t.warnings⟩) := by
  induction ks generalizing t with
  | nil => rw [march_nil, List.map_nil, List.append_nil]
  | cons k ks ih =>
      have hreply : Runner.dry t.commands k.command = .ok (CommandOutput.ok "") := rfl
      simp only [march, hreply, k.purpose.warnings_silence, Transcript.warn_nil]
      rw [if_pos k.purpose.tolerates_silence, ih]
      simp

namespace Shaper

variable {s : Shaper}

/-- Where nothing is shown there is nothing to advise. -/
theorem advice_dry (seen : List Command) (devices : List String) :
    advice Runner.dry seen devices = [] := by
  induction devices generalizing seen with
  | nil => rfl
  | cons device devices ih =>
      have hsilent : adviceOn device (Runner.dry seen (Command.showOn device)) = none := rfl
      rw [advice, hsilent, ih]
      rfl

/-- Nothing is shown in a dry run, so there is nothing to advise on. -/
theorem finalAdvice_dry (seen : List Command) : s.finalAdvice Runner.dry seen = [] := by
  unfold finalAdvice
  rw [advice_dry, ite_self]

/-- Without answers a clear runs to its end and issues its whole schedule, and
an apply does the same. -/
theorem clear_dry (hi : s.policy.interface ≠ "") (hm : s.policy.mirrorDevice ≠ "") :
    s.clear.under Runner.dry = (.ok (), ⟨(clearTasks s.policy).map Task.command, []⟩) := by
  rw [Session.under_eq_resume, performs_clear hi hm, march_dry]
  rfl

theorem apply_dry (hi : s.policy.interface ≠ "") (hm : s.policy.mirrorDevice ≠ "") :
    s.apply.under Runner.dry
      = (.ok ⟨s.plan, s.ruleCommands.length, []⟩,
          ⟨s.schedule.map Task.command ++ s.followUps, []⟩) := by
  have hthrough : s.getThrough.resume Runner.dry .empty
      = (.ok (), ⟨s.schedule.map Task.command, []⟩) := by
    rw [performs_getThrough hi hm, march_dry]
    rfl
  rw [apply_eq hi hm, Session.under_eq_resume, Session.resume_bind_ok hthrough,
    resume_lookAndReport hi hm, finalAdvice_dry]
  rfl

end Shaper

namespace Program

variable {c : Configuration}

-- ========================================================= dry runs

/-- What a dry run of a configuration records. -/
def rehearsal (c : Configuration) : List Command := ((act c).under Runner.dry).2.commands

/-- What a dry run reports of its action, in both forms of output. Nothing calls
for a warning; the rules that installing counts are those that were compiled. -/
inductive Reports (c : Configuration) : Outcome → Prop
  | apply {plan : CompiledPolicy} {n : Nat} (haction : c.action = .apply)
    (hplan : plan = compile c.policy c.compiler)
    (hn : n = plan.outbound.qdiscs.length + plan.outbound.filters.length
      + (plan.inbound.qdiscs.length + plan.inbound.filters.length)) :
    Reports c
      { json := .obj [("compiled", toJson plan), ("rules_installed", .int n), ("warnings", .arr [])]
        text := "Shaping applied on " ++ c.policy.interface ++ " (" ++ n.repr ++ " rules)\n" }
  | clear (haction : c.action = .clear) :
    Reports c
      { json := .obj [("cleared", .str c.policy.interface)]
        text := "Shaping cleared on " ++ c.policy.interface ++ "\n" }
  | status {report : StatusReport} (haction : c.action = .status)
    (hreport : (c.shaper.status.under Runner.dry).1 = .ok report) :
    Reports c { json := report.toJson, text := report.render }

/-- There is one command for each rule of either direction. -/
theorem length_ruleCommands (s : Shaper) :
    s.ruleCommands.length = s.plan.outbound.qdiscs.length + s.plan.outbound.filters.length
      + (s.plan.inbound.qdiscs.length + s.plan.inbound.filters.length) := by
  simp only [Shaper.ruleCommands, Command.installRules, List.length_append, List.length_map]

/-- Installing without a warning leaves the plan and the number of its rules to
report. -/
theorem ofApply_silent (interface : String) (plan : CompiledPolicy) (n : Nat) :
    Outcome.ofApply interface ⟨plan, n, []⟩ =
      { json := .obj [("compiled", toJson plan), ("rules_installed", .int n), ("warnings", .arr [])]
        text := "Shaping applied on " ++ interface ++ " (" ++ n.repr ++ " rules)\n" } := by
  simp [Outcome.ofApply, ApplyReport.toJson]

/-- Played through dry, every action returns its report and says nothing. -/
theorem act_dry (hi : c.policy.interface ≠ "") (hm : c.policy.mirrorDevice ≠ "") :
    ∃ o commands, (act c).under Runner.dry = (.ok o, ⟨commands, []⟩) ∧ Reports c o := by
  cases haction : c.action with
  | apply =>
      rw [act_of_apply haction, Session.under_map, Shaper.apply_dry hi hm]
      refine ⟨_, _, rfl, ?_⟩
      rw [ofApply_silent]
      exact .apply haction rfl (length_ruleCommands c.shaper)
  | clear =>
      rw [act_of_clear haction, Session.under_map, Shaper.clear_dry hi hm]
      exact ⟨_, _, rfl, .clear haction⟩
  | status =>
      obtain ⟨report, hstatus⟩ := Shaper.status_dry (s := c.shaper) hi hm
      rw [act_of_status haction, Session.under_map, hstatus]
      exact ⟨_, _, rfl, .status haction (by rw [hstatus])⟩

/-- A dry run of a valid configuration succeeds, launches nothing, and prints
its report with the commands that it recorded. -/
theorem dryRun_eq (hvalid : c.validate = .ok ()) :
    ∃ o output, Reports c o ∧ o.PrintedWith (rehearsal c) c.json output
      ∧ dryRun c = ⟨.printed output, [], []⟩ := by
  obtain ⟨hi, hm⟩ := Configuration.names_of_validate hvalid
  obtain ⟨o, commands, hdry, hreports⟩ := act_dry hi hm
  refine ⟨o, _, hreports, o.printDry_printedWith (rehearsal c) c.json, ?_⟩
  unfold dryRun rehearsal
  rw [hdry]

/-- A dry run records the script. -/
theorem rehearsal_eq_script (hvalid : c.validate = .ok ()) (haction : c.action ≠ .status) :
    rehearsal c = c.script := by
  obtain ⟨hi, hm⟩ := Configuration.names_of_validate hvalid
  obtain ⟨o, commands, hdry, -⟩ := act_dry hi hm
  exact (fixed_act hi hm haction).whole Runner.dry o (by rw [hdry])

/-- A dry run takes nothing from the world but what configurations are made
from. -/
theorem runInvocation_eq_of_dryRun {w w' : World} {i : Invocation} (hdry : i.dryRun = true)
    (hsame : w.surroundings = w'.surroundings) : runInvocation w i = runInvocation w' i := by
  unfold runInvocation
  rw [← hsame]
  cases hof : Configuration.of w.surroundings i with
  | error f => rfl
  | ok made =>
      obtain ⟨c, ws⟩ := made
      have hc : c.dryRun = true := (Configuration.of_fields hof).2.1.trans hdry
      simp only [hc, if_true]

-- ======================================================== the statement

/-- What the dry runs of a valid configuration have to do with its real ones.
Whether a run is dry is not part of what it carries out, so an invocation is
compared with itself, made dry and made real. -/
structure Rehearsed (c : Configuration) : Prop where
  /-- A dry run succeeds, launches nothing, and prints the report of its action
  with all the commands that it recorded. -/
  shown : ∃ o output, Reports c o ∧ o.PrintedWith (rehearsal c) c.json output
    ∧ dryRun c = ⟨.printed output, [], []⟩
  /-- Under any runner the action hands over a front part of that, and all of it
  where it returns. -/
  fixed : c.action ≠ .status → (act c).Fixed (rehearsal c)
  /-- Made dry, an invocation prints the same in every world. -/
  dry : ∀ w i ws, Configuration.of w.surroundings i = .ok (c, ws) →
    runInvocation w { i with dryRun := true } = dryRun c
  /-- Made real, it executes a front part. -/
  front : ∀ w i ws, Configuration.of w.surroundings i = .ok (c, ws) → c.action ≠ .status →
    (runInvocation w { i with dryRun := false }).executed <+: rehearsal c
  /-- Made real and successful, it executes everything. -/
  whole : ∀ w i ws output, Configuration.of w.surroundings i = .ok (c, ws) →
    c.action ≠ .status →
    (runInvocation w { i with dryRun := false }).ending = .printed output →
    (runInvocation w { i with dryRun := false }).executed = rehearsal c

/-- Every valid configuration is rehearsed: each action is taken through its own
session. -/
theorem rehearsed_of_valid (hvalid : c.validate = .ok ()) : Rehearsed c := by
  have hfixed : c.action ≠ .status → (act c).Fixed (rehearsal c) := by
    intro haction
    obtain ⟨hi, hm⟩ := Configuration.names_of_validate hvalid
    rw [rehearsal_eq_script hvalid haction]
    exact fixed_act hi hm haction
  have hreal : ∀ w i ws, Configuration.of w.surroundings i = .ok (c, ws) →
      runInvocation w { i with dryRun := false } = realRun w c :=
    fun w i ws hof => runInvocation_of_valid hof hvalid false
  refine ⟨dryRun_eq hvalid, hfixed, ?_, ?_, ?_⟩
  · intro w i ws hof
    exact runInvocation_of_valid hof hvalid true
  · intro w i ws hof haction
    rw [hreal w i ws hof]
    exact realRun_isPrefix (hfixed haction) w
  · intro w i ws output hof haction hprinted
    rw [hreal w i ws hof] at hprinted ⊢
    exact realRun_of_printed (hfixed haction) hprinted

/-- A dry run depends on nothing but the command line and what configurations
are made from, and every valid configuration is rehearsed by its dry run. -/
theorem dryRun_rehearses_real_runs :
    (∀ (w w' : World) (words : List String) (i : Invocation),
        CommandLine.parse words = .ok i → i.dryRun = true →
        w.surroundings = w'.surroundings → run w words = run w' words)
      ∧ ∀ c : Configuration, c.validate = .ok () → Rehearsed c := by
  refine ⟨fun w w' words i hparse hdry hsame => ?_, fun c hvalid => rehearsed_of_valid hvalid⟩
  unfold run
  rw [hparse]
  exact runInvocation_eq_of_dryRun hdry hsame

/-- Clearing without privileges, where nothing exists and no program can be run:
made dry it shows the same as in a world where all of that is different. -/
theorem dryRun_rehearses_real_runs_of_clearing :
    let w : World :=
      { files := ⟨fun _ => .absent .notFound⟩, home := none, logDirectives := none, user := 0,
        holds := fun _ => true, runner := Runner.dry }
    let w' : World :=
      { w with
        user := 1000, holds := fun _ => false,
        runner := fun _ _ => .error (.io "No such file or directory (os error 2)") }
    let i : Invocation := { Invocation.default with action := .clear, dryRun := true }
    let words := ["clear", "--dry-run"]
    CommandLine.parse words = .ok i ∧ i.dryRun = true ∧ w.surroundings = w'.surroundings
      ∧ run w words = run w' words
      ∧ ∃ c ws, Configuration.of w.surroundings i = .ok (c, ws) ∧ c.validate = .ok ()
        ∧ Rehearsed c := by
  intro w w' i words
  have hparse : CommandLine.parse words = .ok i := by decide
  refine ⟨hparse, rfl, rfl, dryRun_rehearses_real_runs.1 w w' words i hparse rfl rfl, ?_⟩
  refine ⟨_, _, rfl, ?_, dryRun_rehearses_real_runs.2 _ ?_⟩ <;> decide

end Program

end TrafficShaping
