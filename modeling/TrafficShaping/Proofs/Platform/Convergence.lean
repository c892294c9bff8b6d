/-
Installing converges and clearing undoes it, from any platform and after any
number of runs that were cut short (`installs_and_clears_after_cuts`).

What carries this is that no command of either session changes any device but
the two of the policy, and that none makes or removes the interface
(`Platform.Alike`). So however far earlier runs got, clearing and installing
come to the same as on the platform that those runs started from.
-/
import TrafficShaping.Proofs.Platform.Replacement

namespace TrafficShaping

open Shaper (changes)

-- ============================================== what the commands touch

/-- A command changes the mirror device, or what hangs at the interface, or
nothing. -/
def Command.Touches (c : Command) (p : ShapingPolicy) : Prop :=
  ∀ op, Operation.read? c = some op →
    op.device = p.mirrorDevice ∨ (op.device = p.interface ∧ op.act.isLink = false)

/-- A query touches nothing. -/
theorem Command.touches_of_query {c : Command} {p : ShapingPolicy}
    (h : Operation.read? c = none) : c.Touches p := by
  intro op hop
  rw [h] at hop
  cases hop

/-- A task fits its act and keeps to a policy's devices where its purpose and
its device do; each kind of task is checked against this once. -/
theorem Task.fits_and_touches {k : Task} {p : ShapingPolicy} {name : String} {a : Act}
    (h : Operation.read? k.command = some ⟨name, a⟩)
    (hpurpose : k.purpose = .change ∨ k.purpose.Forgives a)
    (hdevice : name = p.mirrorDevice ∨ (name = p.interface ∧ a.isLink = false)) :
    k.Fits ∧ k.command.Touches p := by
  refine ⟨⟨_, h, hpurpose⟩, fun op hop => ?_⟩
  obtain rfl := Option.some.inj (h.symm.trans hop)
  exact hdevice

namespace Shaper

variable {s : Shaper} {p : ShapingPolicy} {k : Task}

/-- Clearing deletes at the two devices, and the one link that goes is the
mirror. -/
theorem fits_of_mem_clearTasks (hk : k ∈ clearTasks p) : k.Fits ∧ k.command.Touches p := by
  simp only [clearTasks, List.mem_cons, List.not_mem_nil, or_false] at hk
  rcases hk with rfl | rfl | rfl | rfl
  · exact Task.fits_and_touches (Operation.read?_deleteRoot _) (Or.inr .deleteRoot)
      (Or.inr ⟨rfl, rfl⟩)
  · exact Task.fits_and_touches (Operation.read?_deleteRoot _) (Or.inr .deleteRoot) (Or.inl rfl)
  · exact Task.fits_and_touches (Operation.read?_deleteIngress _) (Or.inr .deleteIngress)
      (Or.inr ⟨rfl, rfl⟩)
  · exact Task.fits_and_touches (Operation.read?_deleteLink _) (Or.inr .deleteLink) (Or.inl rfl)

/-- Redirection makes the mirror and feeds it from the interface. -/
theorem fits_of_mem_redirectTasks (hk : k ∈ redirectTasks p) :
    k.Fits ∧ k.command.Touches p := by
  simp only [redirectTasks, List.mem_cons, List.not_mem_nil, or_false] at hk
  rcases hk with rfl | rfl | rfl | rfl
  · exact Task.fits_and_touches (Operation.read?_addMirror _) (Or.inr .addLink) (Or.inl rfl)
  · exact Task.fits_and_touches (Operation.read?_bringUp _) (Or.inl rfl) (Or.inl rfl)
  · exact Task.fits_and_touches (Operation.read?_addIngress _) (Or.inl rfl) (Or.inr ⟨rfl, rfl⟩)
  · exact Task.fits_and_touches (Operation.read?_feedMirror _ _) (Or.inl rfl)
      (Or.inr ⟨rfl, rfl⟩)

/-- The rules of a rule set all change what hangs at its device. -/
theorem fits_of_mem_rules {r : RuleSet} {name : String} (hr : r.Installable name)
    (hname : name = p.mirrorDevice ∨ name = p.interface)
    (hk : k ∈ changes (Command.installRules r)) : k.Fits ∧ k.command.Touches p := by
  obtain ⟨c, hc, rfl⟩ := List.mem_map.1 hk
  have hdevice {a : Act} (ha : a.isLink = false) :
      name = p.mirrorDevice ∨ (name = p.interface ∧ a.isLink = false) :=
    hname.imp_right fun h => ⟨h, ha⟩
  rcases List.mem_append.1 hc with hqdisc | hfilter
  · obtain ⟨q, hq, rfl⟩ := List.mem_map.1 hqdisc
    have hread := Operation.read?_installQdisc q
    rw [hr.qdiscs_device q hq] at hread
    refine Task.fits_and_touches hread (Or.inl rfl) (hdevice ?_)
    unfold Qdisc.act
    split <;> rfl
  · obtain ⟨f, hf, rfl⟩ := List.mem_map.1 hfilter
    have hread := Operation.read?_installFilter f
    rw [hr.filters_device f hf] at hread
    exact Task.fits_and_touches hread (Or.inl rfl) (hdevice rfl)

/-- So every step of a replacement fits its act and keeps to the policy's
devices. -/
theorem fits_of_mem_replacement (hk : k ∈ s.replacement) :
    k.Fits ∧ k.command.Touches s.policy := by
  rcases List.mem_append.1 hk with hclear | hk
  · exact fits_of_mem_clearTasks hclear
  · rcases List.mem_append.1 hk with hredirect | hrules
    · exact fits_of_mem_redirectTasks hredirect
    · rw [ruleCommands, changes, List.map_append] at hrules
      rcases List.mem_append.1 hrules with hout | hin
      · exact fits_of_mem_rules s.outbound_installable (Or.inr rfl) hout
      · exact fits_of_mem_rules s.inbound_installable (Or.inl rfl) hin

/-- What is asked of the feature tool is one query at most. -/
theorem inquiryTasks_cases (s : Shaper) :
    s.inquiryTasks = [] ∨ ∃ k, s.inquiryTasks = [k] ∧ Operation.read? k.command = none := by
  unfold inquiryTasks
  split
  · exact Or.inr ⟨_, rfl, Operation.read?_askFeatures _⟩
  · exact Or.inl rfl

/-- The question about offloads changes nothing. -/
theorem query_of_mem_inquiryTasks {c : Command} (hc : c ∈ s.inquiryTasks.map Task.command) :
    Operation.read? c = none := by
  obtain ⟨k, hk, rfl⟩ := List.mem_map.1 hc
  rcases inquiryTasks_cases s with hnone | ⟨l, hone, hquery⟩
  · rw [hnone] at hk
    cases hk
  · rw [hone] at hk
    rwa [List.mem_singleton.1 hk]

/-- The looks at the devices afterwards are queries too. -/
theorem query_of_mem_followUps {c : Command} (hc : c ∈ s.followUps) :
    Operation.read? c = none := by
  unfold followUps at hc
  split at hc
  · simp only [List.mem_cons, List.not_mem_nil, or_false] at hc
    rcases hc with rfl | rfl <;> exact Operation.read?_showOn _
  · cases hc

end Shaper

-- ==================================================== alike platforms

namespace Platform

variable {σ τ : Platform} {p : ShapingPolicy}

/-- Platforms that differ in the devices of a policy at most, and agree on
whether the interface is there. An interface that is its own mirror comes and
goes with that. -/
structure Alike (σ τ : Platform) (p : ShapingPolicy) : Prop where
  elsewhere : ∀ name, name ≠ p.interface → name ≠ p.mirrorDevice →
    τ.device? name = σ.device? name
  interface : p.interface ≠ p.mirrorDevice →
    (τ.device? p.interface).isSome = (σ.device? p.interface).isSome

theorem alike_refl (σ : Platform) (p : ShapingPolicy) : σ.Alike σ p :=
  ⟨fun _ _ _ => rfl, fun _ => rfl⟩

/-- A command that touches no more than that leaves an alike platform. -/
theorem Alike.after (h : σ.Alike τ p) {c : Command} (hc : c.Touches p) : σ.Alike (τ.after c) p := by
  cases hop : Operation.read? c with
  | none => rwa [after_query hop]
  | some op =>
      refine ⟨fun name hi hm => ?_, fun hne => ?_⟩
      · have hname : name ≠ op.device := by
          rintro rfl
          rcases hc op hop with hmirror | ⟨hinterface, -⟩
          · exact hm hmirror
          · exact hi hinterface
        rw [after_eq_set hop, set_of_ne hname]
        exact h.elsewhere name hi hm
      · rcases hc op hop with hmirror | ⟨-, hlink⟩
        · rw [after_eq_set hop, set_of_ne (hmirror ▸ hne)]
          exact h.interface hne
        · rw [isSome_after hop hlink]
          exact h.interface hne

/-- So does a run of such commands, one after the other. -/
theorem Alike.afterAll {commands : List Command} (h : σ.Alike τ p)
    (hc : ∀ c ∈ commands, c.Touches p) : σ.Alike (τ.afterAll commands) p := by
  induction commands generalizing τ with
  | nil => exact h
  | cons c commands ih =>
      exact ih (h.after (hc c (List.mem_cons_self ..))) fun d hd => hc d (List.mem_cons_of_mem _ hd)

/-- All that is left of a device that is stripped is that it is there. -/
theorem map_bare_eq {dev dev' : Option Device} (h : dev'.isSome = dev.isSome) :
    (dev'.map fun _ => Device.bare) = dev.map fun _ => Device.bare := by
  cases dev with
  | none => rw [Option.isSome_eq_false_iff.1 h |> Option.isNone_iff_eq_none.1]
  | some d =>
      obtain ⟨d', rfl⟩ := Option.isSome_iff_exists.1 h
      rfl

/-- Alike platforms are cleared to the same one. -/
theorem Alike.cleared_eq (h : σ.Alike τ p) : τ.cleared p = σ.cleared p := by
  refine Platform.ext (funext fun name => ?_)
  by_cases hm : name = p.mirrorDevice
  · subst hm
    simp [cleared]
  · by_cases hi : name = p.interface
    · subst hi
      simp [cleared, set_device?, map_bare_eq (h.interface hm)]
    · simp [cleared, set_device?, hm, hi, h.elsewhere name hi hm]

/-- And they are shaped to the same one. -/
theorem Alike.shaped_eq {s : Shaper} (h : σ.Alike τ s.policy) : τ.shaped s = σ.shaped s := by
  refine Platform.ext (funext fun name => ?_)
  by_cases hm : name = s.policy.mirrorDevice
  · subst hm
    simp [shaped]
  · by_cases hi : name = s.policy.interface
    · subst hi
      simp [shaped, set_device?]
    · simp [shaped, set_device?, hm, hi, h.elsewhere name hi hm]

end Platform

-- ====================================================== whole sessions

namespace Shaper

variable {s : Shaper} {runner : Runner} {τ : Platform}

/-- The offload features, where they are looked at, do not stand in the way. -/
def Unhindered (s : Shaper) (runner : Runner) : Prop :=
  ∀ k ∈ s.inquiryTasks, k.purpose.Tolerates (runner [] k.command)

/-- Where no offload is in the way, the inquiry is got through. -/
theorem march_of_unhindered (h : s.Unhindered runner) :
    ∃ ws, march runner .empty s.inquiryTasks
      = (.ok (), ⟨s.inquiryTasks.map Task.command, ws⟩) := by
  rcases inquiryTasks_cases s with hnone | ⟨k, hone, -⟩
  · rw [hnone]
    exact ⟨[], rfl⟩
  · have htolerated : k.purpose.Tolerates (runner [] k.command) := h k (by simp [hone])
    rw [hone]
    exact ⟨_, if_pos htolerated⟩

/-- Where one is, the inquiry ends the run, after the question at most. -/
theorem march_of_hindered (h : ¬ s.Unhindered runner) :
    ∃ fault ws, march runner .empty s.inquiryTasks
      = (.error fault, ⟨s.inquiryTasks.map Task.command, ws⟩) := by
  rcases inquiryTasks_cases s with hnone | ⟨k, hone, -⟩
  · exact absurd (fun k hk => nomatch hnone ▸ hk) h
  · have hrefused : ¬ k.purpose.Tolerates (runner [] k.command) := by
      intro htolerated
      refine h fun l hl => ?_
      rw [hone] at hl
      rwa [List.mem_singleton.1 hl]
    rw [hone]
    exact ⟨_, _, if_neg hrefused⟩

variable (hi : s.policy.interface ≠ "") (hm : s.policy.mirrorDevice ≠ "")
include hi hm

/-- Where the features stand in the way, that is all. -/
theorem apply_of_hindered (h : ¬ s.Unhindered runner) :
    ∃ fault ws, s.apply.under runner
      = (.error fault, ⟨s.inquiryTasks.map Task.command, ws⟩) := by
  obtain ⟨fault, ws, hinquiry⟩ := march_of_hindered h
  obtain ⟨_, _, happly⟩ := resume_apply hi hm runner .empty
  rw [schedule_eq, march_append, hinquiry] at happly
  exact ⟨fault, ws, happly⟩

/-- Where they do not, all that was done before the replacement is a query. -/
theorem apply_of_unhindered (τ : Platform) (h : s.Unhindered runner) :
    ∃ t warnings ws, t.commands = s.inquiryTasks.map Task.command
      ∧ τ.afterAll t.commands = τ
      ∧ s.apply.under runner = match march runner t s.replacement with
        | (.ok (), t') =>
          (.ok ⟨s.plan, s.ruleCommands.length, warnings⟩,
            ⟨t'.commands ++ s.followUps, t'.warnings ++ ws⟩)
        | (.error fault, t') => (.error fault, t') := by
  obtain ⟨us, hinquiry⟩ := march_of_unhindered h
  obtain ⟨warnings, ws, happly⟩ := resume_apply hi hm runner .empty
  rw [schedule_eq, march_append, hinquiry] at happly
  exact ⟨⟨s.inquiryTasks.map Task.command, us⟩, warnings, ws, rfl,
    Platform.afterAll_queries fun c hc => query_of_mem_inquiryTasks hc, happly⟩

/-- Then, where the platform carries the replacement through, the whole
schedule is handed over and the report is given. -/
theorem apply_of_carries (hanswers : τ.Answers runner) (h : s.Unhindered runner)
    (hcarries : τ.Carries s.replacement) :
    ∃ warnings ws, s.apply.under runner
      = (.ok ⟨s.plan, s.ruleCommands.length, warnings⟩,
          ⟨s.schedule.map Task.command ++ s.followUps, ws⟩) := by
  obtain ⟨t, warnings, ws, hcommands, hsame, happly⟩ := apply_of_unhindered hi hm τ h
  obtain ⟨us, hmarch⟩ := Platform.march_of_carries hanswers
    (fun k hk => (fits_of_mem_replacement hk).1) (hsame.symm ▸ hcarries)
  simp only [hmarch, hcommands] at happly
  rw [schedule_eq, List.map_append]
  exact ⟨warnings, _, happly⟩

/-- Where the platform does not, installing ends in a fault. -/
theorem apply_of_not_carries (hanswers : τ.Answers runner) (h : s.Unhindered runner)
    (hcarries : ¬ τ.Carries s.replacement) :
    ∃ fault t, s.apply.under runner = (.error fault, t) := by
  obtain ⟨t, _, _, -, hsame, happly⟩ := apply_of_unhindered hi hm τ h
  obtain ⟨fault, t', hmarch⟩ := Platform.march_of_not_carries hanswers
    (fun k hk => (fits_of_mem_replacement hk).1) (hsame.symm ▸ hcarries)
  simp only [hmarch] at happly
  exact ⟨fault, t', happly⟩

/-- However installing ends, its commands touch no more than the policy's
devices. -/
theorem touches_of_mem_apply {c : Command} (hc : c ∈ (s.apply.under runner).2.commands) :
    c.Touches s.policy := by
  have hschedule : ∀ c ∈ s.schedule.map Task.command, c.Touches s.policy := by
    intro c hc
    rw [schedule_eq, List.map_append] at hc
    rcases List.mem_append.1 hc with hquery | hreplacement
    · exact Command.touches_of_query (query_of_mem_inquiryTasks hquery)
    · obtain ⟨k, hk, rfl⟩ := List.mem_map.1 hreplacement
      exact (fits_of_mem_replacement hk).2
  obtain ⟨n, hmarch⟩ := march_commands runner .empty s.schedule
  have htaken : ∀ c ∈ (march runner .empty s.schedule).2.commands, c.Touches s.policy := by
    intro c hc
    rw [hmarch, Transcript.empty_commands, List.nil_append, List.map_take] at hc
    exact hschedule c (List.mem_of_mem_take hc)
  obtain ⟨_, _, happly⟩ := resume_apply hi hm runner .empty
  rw [← Session.under_eq_resume] at happly
  rw [happly] at hc
  split at hc
  · rename_i hthrough
    rw [hthrough] at htaken
    rcases List.mem_append.1 hc with hmem | hquery
    · exact htaken c hmem
    · exact Command.touches_of_query (query_of_mem_followUps hquery)
  · rename_i hstopped
    rw [hstopped] at htaken
    exact htaken c hc

/-- Clearing hands over its four deletions on every platform. -/
theorem clear_under (hanswers : τ.Answers runner) :
    ∃ ws, s.clear.under runner
      = (.ok (), ⟨(clearTasks s.policy).map Task.command, ws⟩) := by
  obtain ⟨ws, hmarch⟩ := Platform.march_of_carries (t := .empty) hanswers
    (fun k hk => (fits_of_mem_clearTasks hk).1) (Platform.brings_clear τ s.policy).1
  exact ⟨ws, (performs_clear hi hm runner .empty).trans hmarch⟩

/-- However a clear ends, its commands keep to the policy's devices. -/
theorem touches_of_mem_clear {c : Command} (hc : c ∈ (s.clear.under runner).2.commands) :
    c.Touches s.policy := by
  obtain ⟨n, hmarch⟩ := march_commands runner .empty (clearTasks s.policy)
  have hclear : s.clear.under runner = march runner .empty (clearTasks s.policy) :=
    performs_clear hi hm runner .empty
  rw [hclear, hmarch, Transcript.empty_commands, List.nil_append] at hc
  obtain ⟨k, hk, rfl⟩ := List.mem_map.1 hc
  exact (fits_of_mem_clearTasks (List.mem_of_mem_take hk)).2

end Shaper

-- ======================================================== the statement

namespace Shaper

variable (s : Shaper) (σ : Platform)

/-- The platforms that sessions leave behind which started on `σ`, each of
them cut short after any number of commands or not at all. -/
inductive Leaves : Platform → Prop where
  | start : Leaves σ
  | apply {τ : Platform} {runner : Runner} (h : Leaves τ) (hanswers : τ.Answers runner)
      (n : Nat) : Leaves (τ.afterAll ((s.apply.under runner).2.commands.take n))
  | clear {τ : Platform} {runner : Runner} (h : Leaves τ) (hanswers : τ.Answers runner)
      (n : Nat) : Leaves (τ.afterAll ((s.clear.under runner).2.commands.take n))

/-- Installing on a platform comes to the same as on `σ`. -/
structure Installs (τ : Platform) (runner : Runner) : Prop where
  /-- It gets through exactly where the features do not stand in the way and
  the interface is there and is not its own mirror. -/
  through_iff : (∃ report, (s.apply.under runner).1 = .ok report)
    ↔ s.Unhindered runner ∧ (σ.device? s.policy.interface).isSome
      ∧ s.policy.interface ≠ s.policy.mirrorDevice
  /-- Then it reports what is installed, -/
  report_eq : ∀ report, (s.apply.under runner).1 = .ok report →
    report.compiled = s.plan ∧ report.rulesInstalled = s.ruleCommands.length
  /-- and the platform is shaped, whatever was there. -/
  shapes : ∀ report, (s.apply.under runner).1 = .ok report →
    τ.afterAll (s.apply.under runner).2.commands = σ.shaped s
  /-- Where the features stand in the way nothing is changed. -/
  hindered : ¬ s.Unhindered runner → τ.afterAll (s.apply.under runner).2.commands = τ

/-- Clearing a platform gets through and comes to the same as on `σ`. -/
structure Clears (τ : Platform) (runner : Runner) : Prop where
  through : (s.clear.under runner).1 = .ok ()
  clears : τ.afterAll (s.clear.under runner).2.commands = σ.cleared s.policy
  /-- That is `σ` itself where it had nothing at the interface and no mirror
  device. -/
  restores : σ.device? s.policy.mirrorDevice = none →
    (∀ dev, σ.device? s.policy.interface = some dev → dev = .bare) →
    τ.afterAll (s.clear.under runner).2.commands = σ

variable {s σ} {τ : Platform} {runner : Runner}
/-- Where it ends in a fault, all that is to be seen is why. -/
theorem installs_of_fault {fault : Fault} {t : Transcript}
    (happly : s.apply.under runner = (.error fault, t))
    (hnot : ¬ (s.Unhindered runner ∧ (σ.device? s.policy.interface).isSome
      ∧ s.policy.interface ≠ s.policy.mirrorDevice))
    (hhindered : ¬ s.Unhindered runner → τ.afterAll t.commands = τ) : s.Installs σ τ runner := by
  have hfault : ∀ report, (s.apply.under runner).1 ≠ .ok report := by
    rw [happly]
    exact fun report hreport => nomatch hreport
  refine ⟨⟨fun ⟨report, hreport⟩ => absurd hreport (hfault report), fun hall => absurd hall hnot⟩,
    fun report hreport => absurd hreport (hfault report),
    fun report hreport => absurd hreport (hfault report), ?_⟩
  rw [happly]
  exact hhindered

section

variable (hi : s.policy.interface ≠ "") (hm : s.policy.mirrorDevice ≠ "")
include hi hm

/-- Whatever is left behind is alike. -/
theorem alike_of_leaves (h : s.Leaves σ τ) : σ.Alike τ s.policy := by
  induction h with
  | start => exact σ.alike_refl s.policy
  | apply h hanswers n ih =>
      exact ih.afterAll fun c hc => touches_of_mem_apply hi hm (List.mem_of_mem_take hc)
  | clear h hanswers n ih =>
      exact ih.afterAll fun c hc => touches_of_mem_clear hi hm (List.mem_of_mem_take hc)

/-- Where installing gets through, it shapes an alike platform. -/
theorem installs_of_ready (h : σ.Alike τ s.policy) (hanswers : τ.Answers runner)
    (hfree : s.Unhindered runner) (hinterface : (τ.device? s.policy.interface).isSome)
    (hne : s.policy.interface ≠ s.policy.mirrorDevice) : s.Installs σ τ runner := by
  obtain ⟨hcarries, hleft⟩ := Platform.brings_replacement hinterface hne
  obtain ⟨warnings, ws, happly⟩ := apply_of_carries hi hm hanswers hfree hcarries
  have hthere : (σ.device? s.policy.interface).isSome := h.interface hne ▸ hinterface
  refine ⟨?_, ?_, ?_, fun hhindered => absurd hfree hhindered⟩
  · rw [happly]
    exact ⟨fun _ => ⟨hfree, hthere, hne⟩, fun _ => ⟨_, rfl⟩⟩
  · intro report hreport
    rw [happly] at hreport
    obtain rfl := Except.ok.inj hreport
    exact ⟨rfl, rfl⟩
  · intro report _
    rw [happly, schedule_eq, List.map_append, Platform.afterAll_append,
      Platform.afterAll_append, Platform.afterAll_queries fun c hc => query_of_mem_inquiryTasks hc,
      hleft, Platform.afterAll_queries fun c hc => query_of_mem_followUps hc]
    exact h.shaped_eq

/-- What sessions left behind does not matter to an apply: only the platform it
began with does. -/
theorem installs_of_alike (h : σ.Alike τ s.policy) (hanswers : τ.Answers runner) :
    s.Installs σ τ runner := by
  by_cases hfree : s.Unhindered runner
  · by_cases hready : (τ.device? s.policy.interface).isSome
        ∧ s.policy.interface ≠ s.policy.mirrorDevice
    · exact installs_of_ready hi hm h hanswers hfree hready.1 hready.2
    · have hcarries : ¬ τ.Carries s.replacement := Platform.not_carries_replacement hready
      obtain ⟨fault, t, happly⟩ := apply_of_not_carries hi hm hanswers hfree hcarries
      refine installs_of_fault happly ?_ fun hhindered => absurd hfree hhindered
      rintro ⟨-, hthere, hne⟩
      exact hready ⟨(h.interface hne).symm ▸ hthere, hne⟩
  · obtain ⟨fault, ws, happly⟩ := apply_of_hindered hi hm hfree
    refine installs_of_fault happly (fun hall => hfree hall.1) fun _ => ?_
    exact Platform.afterAll_queries fun c hc => query_of_mem_inquiryTasks hc

/-- Nor does it matter to a clear. -/
theorem clears_of_alike (h : σ.Alike τ s.policy) (hanswers : τ.Answers runner) :
    s.Clears σ τ runner := by
  obtain ⟨ws, hclear⟩ := clear_under hi hm hanswers
  have hcleared : τ.afterAll (s.clear.under runner).2.commands = σ.cleared s.policy := by
    rw [hclear]
    exact (Platform.brings_clear τ s.policy).2.trans h.cleared_eq
  refine ⟨by rw [hclear], hcleared, fun hmirror hinterface => ?_⟩
  rw [hcleared, Platform.cleared_eq_self hmirror hinterface]

/-- After any number of sessions, each of them cut short or not, installing
and clearing still do to the platform what they would have done to it at the
start, under every runner that answers for it. -/
theorem installs_and_clears_after_cuts (hleft : s.Leaves σ τ) (hanswers : τ.Answers runner) :
    s.Installs σ τ runner ∧ s.Clears σ τ runner := by
  have halike : σ.Alike τ s.policy := alike_of_leaves hi hm hleft
  exact ⟨installs_of_alike hi hm halike hanswers, clears_of_alike hi hm halike hanswers⟩

end

/-- A machine with a tree and a hook of its own at the interface, and an
installation that got to its ninth command. -/
theorem installs_and_clears_after_nine_commands :
    let s : Shaper :=
      ⟨{ ShapingPolicy.default with
          shaping := ⟨some ⟨"rate 1mbit burst 32kbit"⟩, some ⟨"delay 50ms 10ms"⟩, false⟩ },
        CompilerConfig.default, true⟩
    let σ : Platform := ⟨fun name =>
      if name = "eth0" then some ⟨some ⟨[⟨Handle.qdisc 0x8001, .root, ["fq_codel"]⟩], []⟩, some []⟩
      else if name = "lo" then some .bare else none⟩
    let τ := σ.afterAll ((s.apply.under σ.runner).2.commands.take 9)
    s.policy.interface ≠ "" ∧ s.policy.mirrorDevice ≠ "" ∧ s.Leaves σ τ ∧ τ.Answers τ.runner
      ∧ s.Installs σ τ τ.runner ∧ s.Clears σ τ τ.runner
      ∧ ∃ report, (s.apply.under τ.runner).1 = .ok report := by
  intro s σ τ
  have hi : s.policy.interface ≠ "" := by decide
  have hm : s.policy.mirrorDevice ≠ "" := by decide
  have hleft : s.Leaves σ τ := .apply .start σ.answers_runner 9
  obtain ⟨hinstalls, hclears⟩ :=
    installs_and_clears_after_cuts hi hm hleft τ.answers_runner
  refine ⟨hi, hm, hleft, τ.answers_runner, hinstalls, hclears, hinstalls.through_iff.2 ?_⟩
  refine ⟨fun k hk => ?_, by decide, by decide⟩
  obtain rfl := List.mem_singleton.1 hk
  exact Purpose.tolerates_silence _

end Shaper

end TrafficShaping
